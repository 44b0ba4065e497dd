import RayScene.Proofs.Studio.Directory
import RayScene.Proofs.Studio.Stages

/-!
# Calls on a store

A call on a store makes the directory, writes a source, or writes a source and then an image. What
is true of files and of what is known of them, and survives making the directory and writing an
artifact, survives every call (`Call.leave_keeps`).
-/

namespace RayScene.Studio

inductive Call where
  | render (s : Scene) (name : LooseText)
  | readImage (name : LooseText)
  | readSource (name : LooseText)
  | list

def Call.leave (w : World) : Call → World
  | .render s name => (runIn w (renderAs s name)).2
  | .readImage name => (runIn w (storedImage name)).2
  | .readSource name => (runIn w (storedSource name)).2
  | .list => (runIn w sceneNames).2

instance (given : LooseText) (name : String) : Decidable (Accepts given name) :=
  inferInstanceAs (Decidable (_ ∧ _))

/-- The scene whose source a call stores under a name, whatever becomes of the image. -/
def storedBy (name : String) (w : World) : Call → Option Scene
  | .render s given =>
    if Accepts given name ∧ (runIn w (storeSource s name)).1.isOk = true then some s else none
  | _ => none

/-- The image that a call returns and stores under a name. -/
def renderedBy (name : String) (w : World) : Call → Option Bytes
  | .render s given =>
    if Accepts given name then (runIn w (renderAs s given)).1.toOption else none
  | _ => none

def givenBy (name : String) (w : World) (call : Call) : Artifact → Option Bytes
  | .source => (storedBy name w call).map fun s => Utf8.encode s.source
  | .image => renderedBy name w call

def Call.Renders (name : String) : Call → Prop
  | .render _ given => Accepts given name
  | _ => False

theorem accepts_unique {given : LooseText} {n m : String} (h : Accepts given n)
    (h' : Accepts given m) : m = n := by
  obtain ⟨rfl, _⟩ := h
  exact (LooseText.proper.inj h'.1).symm

theorem storedBy_of_not_renders {n : String} (call : Call) (w : World) (h : ¬ call.Renders n) :
    storedBy n w call = none := by
  cases call with
  | render s given => exact if_neg fun both => h both.1
  | readImage given => rfl
  | readSource given => rfl
  | list => rfl

theorem renderedBy_of_not_renders {n : String} (call : Call) (w : World) (h : ¬ call.Renders n) :
    renderedBy n w call = none := by
  cases call with
  | render s given => exact if_neg h
  | readImage given => rfl
  | readSource given => rfl
  | list => rfl

theorem givenBy_of_not_renders {n : String} {call : Call} (h : ¬ call.Renders n) (w : World)
    (artifact : Artifact) : givenBy n w call artifact = none := by
  cases artifact with
  | source => rw [givenBy, storedBy_of_not_renders call w h, Option.map_none]
  | image => exact renderedBy_of_not_renders call w h

theorem Call.leave_settings (w : World) (call : Call) :
    (call.leave w).settings = w.settings := by
  cases call with
  | render s name =>
    obtain ⟨runs, files, same⟩ := renderAs_world w s name
    rw [leave, same]
  | readImage name => exact keeps_storedContent name .image w
  | readSource name => exact keeps_storedSource name w
  | list => exact keeps_sceneNames w

/-- Under an accepted name the directory is made, and then the source is written, and then the
image, as far as that goes. -/
theorem renderAs_cases {w : World} (isRead : Path.IsRead w.settings.imagesDirectory)
    {s : Scene} {given : LooseText} {n : String} (accepted : Accepts given n) :
    let made := (w.files.makeDirectories w.settings.imagesDirectory).1
    (∃ e, runIn w (storeSource s n) = (.error e, { w with files := made }) ∧
        runIn w (renderAs s given) = (.error e, { w with files := made })) ∨
      ∃ files, s.isStorable = true ∧
        made.write (w.settings.imagesDirectory.child (Artifact.source.file n))
          (Utf8.encode s.source) = .ok files ∧
        runIn w (storeSource s n) = (.ok (), { w with files }) ∧
        ((∃ e runs, runIn w (renderAs s given) = (.error e, { w with runs, files })) ∨
          ∃ png runs files', files.write
              (w.settings.imagesDirectory.child (Artifact.image.file n)) png = .ok files' ∧
            runIn w (renderAs s given) = (.ok png, { w with runs, files := files' })) := by
  intro made
  rcases storeSource_files w s n with ⟨e, storing⟩ | ⟨files, _, storable, written, storing⟩
  · exact .inl ⟨e, storing, renderAs_not_stored accepted storing⟩
  refine .inr ⟨files, storable, written, storing, ?_⟩
  have rendering := renderAs_stored accepted storing
  -- The image is written to the text of its path, which is read back as that path.
  have place : Path.ofText (w.settings.imagesDirectory.child (Artifact.image.file n)).text =
      w.settings.imagesDirectory.child (Artifact.image.file n) :=
    Path.ofText_text (isRead.child
      (ArtifactName.isPart_of_isValid (Artifact.isValid_file _ accepted.2)))
  obtain ⟨result, w', rendered, ends⟩ := renderTo_ends { w with files } s
    (w.settings.imagesDirectory.child (Artifact.image.file n)).text
  cases ends with
  | notCompiled _ => exact .inl ⟨_, _, rendering.trans rendered⟩
  | notDrawn _ _ => exact .inl ⟨_, _, rendering.trans rendered⟩
  | notWritten _ _ _ => exact .inl ⟨_, _, rendering.trans rendered⟩
  | written _ _ drawn =>
    rw [place] at drawn
    exact .inr ⟨_, _, _, drawn, rendering.trans rendered⟩

/-! ### What is known -/

abbrev Known := String → Artifact → Option Bytes

namespace Known

variable {known known' : Known} {n m : String} {artifact another : Artifact} {content : Bytes}

def update (known : Known) (name : String) (artifact : Artifact) (content : Bytes) : Known :=
  fun other another =>
    if other = name ∧ another = artifact then some content else known other another

def after (known : Known) (w : World) (call : Call) : Known :=
  fun name artifact => (givenBy name w call artifact).or (known name artifact)

theorem update_same : known.update n artifact content n artifact = some content :=
  if_pos ⟨rfl, rfl⟩

theorem update_other_name (h : m ≠ n) :
    known.update n artifact content m another = known m another :=
  if_neg fun both => h both.1

theorem update_other_artifact (h : another ≠ artifact) :
    known.update n artifact content m another = known m another :=
  if_neg fun both => h both.2

theorem ext_name (n : String) (others : ∀ m ≠ n, known m = known' m)
    (source : known n .source = known' n .source) (image : known n .image = known' n .image) :
    known = known' := by
  funext m artifact
  by_cases same : m = n
  · subst same
    cases artifact with
    | source => exact source
    | image => exact image
  · rw [others m same]

theorem after_of_not_renders {w : World} {call : Call} (h : ¬ call.Renders n) :
    known.after w call n = known n := by
  funext artifact
  rw [after, givenBy_of_not_renders h, Option.none_or]

end Known

structure Survives (directory : Path) (I : Files → Known → Prop) : Prop where
  made {fs : Files} {known : Known} : I fs known → I (fs.makeDirectories directory).1 known
  write {fs fs' : Files} {known : Known} {name : String} {artifact : Artifact} {content : Bytes} :
    I fs known → (fs.makeDirectories directory).1 = fs → ArtifactName.isValid name = true →
    fs.write (directory.child (artifact.file name)) content = .ok fs' →
    I fs' (known.update name artifact content)

section Leave

variable {w : World} {I : Files → Known → Prop} {known : Known}

/-- A call that may store nothing under any name leaves everything as it is. -/
theorem Call.leave_keeps_untouched {call : Call} (h : I w.files known)
    (same : (call.leave w).files = w.files) (nothing : ∀ n, ¬ call.Renders n) :
    I (call.leave w).files (known.after w call) := by
  have unchanged : known.after w call = known :=
    funext fun n => Known.after_of_not_renders (nothing n)
  rw [same, unchanged]
  exact h

section Render

variable {s : Scene} {given : LooseText} {n : String} (accepted : Accepts given n)

include accepted

theorem after_render_other (m : String) (other : m ≠ n) :
    known.after w (.render s given) m = known m :=
  Known.after_of_not_renders fun accepts => other (accepts_unique accepted accepts)

theorem after_render_image :
    known.after w (.render s given) n .image =
      ((runIn w (renderAs s given)).1.toOption).or (known n .image) := by
  have rendered : renderedBy n w (.render s given) = (runIn w (renderAs s given)).1.toOption :=
    if_pos accepted
  rw [Known.after, givenBy, rendered]

theorem after_render_source {result : Except Failure Unit}
    (storing : (runIn w (storeSource s n)).1 = result) :
    known.after w (.render s given) n .source =
      if result.isOk = true then some (Utf8.encode s.source) else known n .source := by
  subst storing
  rw [Known.after, givenBy, storedBy]
  by_cases stored : (runIn w (storeSource s n)).1.isOk = true
  · rw [if_pos ⟨accepted, stored⟩, if_pos stored]
    rfl
  · rw [if_neg (fun both => stored both.2), if_neg stored]
    rfl

theorem after_not_stored {e : Failure} (storing : (runIn w (storeSource s n)).1 = .error e)
    (rendering : (runIn w (renderAs s given)).1 = .error e) :
    known.after w (.render s given) = known := by
  refine Known.ext_name n (after_render_other accepted) ?_ ?_
  · rw [after_render_source accepted storing]
    rfl
  · rw [after_render_image accepted, rendering]
    rfl

theorem after_stored (storing : (runIn w (storeSource s n)).1 = .ok ()) {e : Failure}
    (rendering : (runIn w (renderAs s given)).1 = .error e) :
    known.after w (.render s given) = known.update n .source (Utf8.encode s.source) := by
  refine Known.ext_name n (fun m other => ?_) ?_ ?_
  · rw [after_render_other accepted m other]
    exact funext fun _ => (Known.update_other_name other).symm
  · rw [after_render_source accepted storing, Known.update_same]
    rfl
  · rw [after_render_image accepted, rendering, Known.update_other_artifact (by decide)]
    rfl

theorem after_rendered (storing : (runIn w (storeSource s n)).1 = .ok ()) {png : Bytes}
    (rendering : (runIn w (renderAs s given)).1 = .ok png) :
    known.after w (.render s given) =
      (known.update n .source (Utf8.encode s.source)).update n .image png := by
  refine Known.ext_name n (fun m other => ?_) ?_ ?_
  · rw [after_render_other accepted m other]
    funext artifact
    rw [Known.update_other_name other, Known.update_other_name other]
  · rw [after_render_source accepted storing, Known.update_other_artifact (by decide),
      Known.update_same]
    rfl
  · rw [after_render_image accepted, rendering, Known.update_same]
    rfl

theorem leave_keeps_render (survives : Survives w.settings.imagesDirectory I)
    (isRead : Path.IsRead w.settings.imagesDirectory)
    (made : I (w.files.makeDirectories w.settings.imagesDirectory).1 known) :
    I (runIn w (renderAs s given)).2.files (known.after w (.render s given)) := by
  have valid := accepted.2
  have again := Files.makeDirectories_again w.files w.settings.imagesDirectory
  rcases renderAs_cases isRead accepted with
    ⟨e, storing, ended⟩ | ⟨files, _, written, storing, rendering⟩
  · rw [after_not_stored accepted (congrArg Prod.fst storing) (congrArg Prod.fst ended), ended]
    exact made
  have stored : (runIn w (storeSource s n)).1 = .ok () := congrArg Prod.fst storing
  have sourceKept := survives.write made again valid written
  rcases rendering with ⟨e, runs, ended⟩ | ⟨png, runs, files', drawn, ended⟩
  · rw [after_stored accepted stored (congrArg Prod.fst ended), ended]
    exact sourceKept
  · rw [after_rendered accepted stored (congrArg Prod.fst ended), ended]
    exact survives.write sourceKept (makeDirectories_write written) valid drawn

end Render

theorem Call.leave_keeps (survives : Survives w.settings.imagesDirectory I)
    (isRead : Path.IsRead w.settings.imagesDirectory) (h : I w.files known) (call : Call) :
    I (call.leave w).files (known.after w call) := by
  cases call with
  | render s given =>
    rcases accepts_or given with ⟨n, accepted⟩ | rejected
    · exact leave_keeps_render accepted survives isRead (survives.made h)
    · refine leave_keeps_untouched h ?_ rejected
      rw [leave, renderAs_rejected rejected]
  | readImage name =>
    exact leave_keeps_untouched h (keeps_storedContent name .image w) fun _ => id
  | readSource name => exact leave_keeps_untouched h (keeps_storedSource name w) fun _ => id
  | list => exact leave_keeps_untouched h (keeps_sceneNames w) fun _ => id

end Leave

end RayScene.Studio
