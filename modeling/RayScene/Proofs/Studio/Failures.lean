import RayScene.Proofs.Files.Directories
import RayScene.Proofs.Outcome
import RayScene.Proofs.Studio.EmptyStore
import RayScene.Proofs.Studio.Stages

/-!
# What an action can fail with

The failures of the actions on a store, for a directory that is named by a text of the environment.
Rendering under an accepted name fails in the store or in a program, or because the scene does not
compile or cannot be stored (`renderAs_fails`); looking at an artifact fails because it is missing.
-/

namespace RayScene

namespace Files

theorem settle_error {fs : Files} {p : Path} {problem : FileProblem} {e : AccessError}
    (h : fs.settle p problem = .error e) : ∃ refused, e = .system refused := by
  unfold settle at h
  split at h
  · cases h
  · cases h
    exact ⟨_, rfl⟩

theorem makeDirectoriesFrom_error {fs : Files} {root : String} {parts : List String}
    {e : AccessError} (h : (fs.makeDirectoriesFrom root parts).2 = .error e) :
    ∃ refused, e = .system refused := by
  induction parts generalizing fs with
  | nil =>
    cases attempt : fs.makeDirectory ⟨root, [].reverse⟩ with
    | ok made =>
      rw [makeDirectoriesFrom_made attempt] at h
      cases h
    | error problem =>
      rw [makeDirectoriesFrom_refused attempt fun _ => rfl] at h
      exact settle_error h
  | cons last before ih =>
    cases attempt : fs.makeDirectory ⟨root, (last :: before).reverse⟩ with
    | ok made =>
      rw [makeDirectoriesFrom_made attempt] at h
      cases h
    | error problem =>
      by_cases other : problem = .notFound → last :: before = []
      · rw [makeDirectoriesFrom_refused attempt other] at h
        exact settle_error h
      obtain ⟨rfl, _⟩ := Classical.not_imp.mp other
      rw [makeDirectoriesFrom_above attempt] at h
      rcases upper : fs.makeDirectoriesFrom root before with ⟨made, e' | done⟩
      · simp only [upper] at h
        exact ih ((congrArg Prod.snd upper).trans h)
      · simp only [upper] at h
        split at h
        · cases h
        · exact settle_error h

theorem makeDirectories_error {fs : Files} {p : Path} {e : AccessError}
    (noNull : p.hasNullCharacter = false) (h : (fs.makeDirectories p).2 = .error e) :
    ∃ refused, e = .system refused := by
  unfold makeDirectories at h
  rw [noNull, if_neg Bool.false_ne_true] at h
  exact makeDirectoriesFrom_error h

theorem write_error {fs : Files} {p : Path} {content : Bytes} {e : AccessError}
    (noNull : p.hasNullCharacter = false) (h : fs.write p content = .error e) :
    ∃ refused, e = .system refused := by
  unfold write access at h
  rw [noNull, if_neg Bool.false_ne_true] at h
  cases located : fs.locate p with
  | error problem =>
    simp only [located, failure] at h
    cases h
    exact ⟨_, rfl⟩
  | ok l =>
    simp only [located] at h
    split at h
    · cases h
    · cases h
      exact ⟨_, rfl⟩
    · cases h

end Files

/-- The directory for images is named by a text that the environment can hold. -/
def World.IsConfigured (w : World) : Prop :=
  ∃ text : String, '\x00' ∉ text.toList ∧ w.settings.imagesDirectory = Path.ofText text

/-- Whatever the environment is, a world with the settings of it is configured. -/
theorem World.isConfigured_of_environment {w : World} {variableValues : List (String × String)}
    (h : Settings.ofEnvironment variableValues = .ok w.settings) : w.IsConfigured := by
  obtain ⟨⟨⟩, checked, valued⟩ := Outcome.bind_ok h
  have value := Outcome.mapError_ok valued
  obtain ⟨_, _, value⟩ := Outcome.bind_ok value
  obtain ⟨_, _, value⟩ := Outcome.bind_ok value
  obtain ⟨_, _, value⟩ := Outcome.bind_ok value
  obtain ⟨_, _, value⟩ := Outcome.bind_ok value
  refine ⟨(variableValues.lookup "IMAGES_DIR").getD "./images", ?_,
    congrArg Settings.imagesDirectory (Except.ok.inj value).symm⟩
  cases given : variableValues.lookup "IMAGES_DIR" with
  | none => exact fun null => by cases (List.contains_iff_mem.mpr null : _ = true)
  | some text =>
    obtain ⟨before, after, split, _⟩ := List.lookup_eq_some_iff.mp given
    have taken : Settings.checkVariable "IMAGES_DIR" text = .ok () :=
      Outcome.forM_ok checked ("IMAGES_DIR", text) (by rw [split]; simp)
    intro (null : '\x00' ∈ text.toList)
    unfold Settings.checkVariable at taken
    rw [if_pos (Bool.or_eq_true_iff.mpr (.inr (List.contains_iff_mem.mpr null)))] at taken
    cases taken

namespace World.IsConfigured

variable {w : World} (h : w.IsConfigured)

include h

theorem isRead : Path.IsRead w.settings.imagesDirectory := by
  obtain ⟨text, _, same⟩ := h
  rw [same]
  exact Path.isRead_ofText text

theorem noNull : w.settings.imagesDirectory.hasNullCharacter = false := by
  obtain ⟨text, noNull, same⟩ := h
  rw [same]
  exact Path.hasNullCharacter_ofText noNull

theorem file {name : String} (valid : ArtifactName.isValid name = true) (artifact : Artifact) :
    (w.settings.imagesDirectory.child (artifact.file name)).hasNullCharacter = false ∧
      Path.ofText (w.settings.imagesDirectory.child (artifact.file name)).text =
        w.settings.imagesDirectory.child (artifact.file name) := by
  have validFile := Artifact.isValid_file artifact valid
  constructor
  · rw [Path.hasNullCharacter_child, h.noNull, Bool.false_or, Bool.eq_false_iff]
    intro null
    exact ArtifactName.not_mem_of_isValid validFile rfl (List.contains_iff_mem.mp null)
  · exact Path.ofText_text (h.isRead.child (ArtifactName.isPart_of_isValid validFile))

end World.IsConfigured

namespace Studio

variable {α β ε : Type} {w : World} {P : Failure → Prop}

structure Fails (w : World) (a : Studio α) (P : Failure → Prop) : Prop where
  only {e : Failure} {w' : World} : runIn w a = (.error e, w') → P e

namespace Fails

theorem of_ok {a : Studio α} {x : α} {w' : World} (h : runIn w a = (.ok x, w')) : Fails w a P where
  only failed := by cases h.symm.trans failed

theorem of_error {a : Studio α} {e : Failure} {w' : World} (h : runIn w a = (.error e, w'))
    (holds : P e) : Fails w a P where
  only failed := by
    cases h.symm.trans failed
    exact holds

theorem ofExcept {toFailure : ε → Failure} {r : Except ε α}
    (h : ∀ e, r = .error e → P (toFailure e)) : Fails w (ofExcept toFailure r) P := by
  cases r with
  | ok a => exact of_ok (runIn_ofExcept_ok rfl w)
  | error e => exact of_error (runIn_ofExcept_error rfl w) (h e rfl)

theorem bind {a : Studio α} {next : α → Studio β} (first : Fails w a P)
    (later : ∀ x w', runIn w a = (.ok x, w') → Fails w' (next x) P) :
    Fails w (a >>= next) P where
  only failed := by
    rcases runIn_bind w a next with ⟨e₁, w₁, ended, same⟩ | ⟨x, w₁, went, same⟩
    · cases same.symm.trans failed
      exact first.only ended
    · exact (later x w₁ went).only (same.symm.trans failed)

theorem bind_ok {a : Studio α} {next : α → Studio β} {x : α} {w' : World}
    (h : runIn w a = (.ok x, w')) (later : Fails w' (next x) P) : Fails w (a >>= next) P where
  only failed := later.only ((runIn_bind_ok h next).symm.trans failed)

theorem mono {a : Studio α} {Q : Failure → Prop} (h : Fails w a P) (implies : ∀ e, P e → Q e) :
    Fails w a Q where
  only failed := implies _ (h.only failed)

end Fails

/-! ### Rendering -/

def IsRenderFault (e : Failure) : Prop := ∃ f, e = .fault (.render f)

inductive RenderFailure (w : World) (s : Scene) (n : String) : Failure → Prop
  | render (f : RenderFault) : RenderFailure w s n (.fault (.render f))
  | compile {e : CompileError} : s.compileText w.trig = .error e →
      RenderFailure w s n (Failure.ofCompile e)
  | unreported {e : Failure} : Unreported w s n e → RenderFailure w s n e

theorem StoringEnds.failure {w' : World} {s : Scene} {n : String} {e : Failure}
    (configured : w.IsConfigured) (valid : ArtifactName.isValid n = true)
    (h : StoringEnds w s n (.error e) w') : Unreported w s n e ∨ IsRenderFault e := by
  cases h with
  | notMade making =>
    obtain ⟨refused, rfl⟩ := Files.makeDirectories_error configured.noNull (by rw [making])
    exact .inr ⟨_, rfl⟩
  | notStorable making broken => exact .inl (.notStorable (congrArg Prod.snd making) broken)
  | notWritten _ _ failed =>
    obtain ⟨refused, rfl⟩ := Files.write_error (configured.file valid .source).1 failed
    exact .inr ⟨_, rfl⟩

/-- If the programs do not draw what is stored, that is reported, or nobody can wait for it. -/
theorem Draws.failure {s : Scene} {n : String} {text : String} {runs : List Invocation}
    {e : Failure} (stores : Stores w s n) (compiled : s.compileText w.trig = .ok text)
    (h : Draws w text w.settings.timeout runs (.error e)) :
    Unreported w s n e ∨ IsRenderFault e := by
  rcases h.error with ⟨f, rfl⟩ | rfl
  · exact .inr ⟨f, rfl⟩
  · exact .inl (.notAwaited stores compiled (h.unwaitable_iff.mp rfl).2)

theorem Draws.of_files {files : Files} {text : String} {timeout : Int} {runs : List Invocation}
    {result : Except Failure Bytes} (h : Draws { w with files } text timeout runs result) :
    Draws w text timeout runs result := by
  cases h with
  | notRendered failed => exact .notRendered failed
  | notConverted drawn failed => exact .notConverted drawn failed
  | converted drawn succeeded => exact .converted drawn succeeded

theorem RenderingEnds.failure {w' : World} {s : Scene} {n : String} {e : Failure}
    (configured : w.IsConfigured) (valid : ArtifactName.isValid n = true)
    (h : RenderingEnds w s n (.error e) w') : RenderFailure w s n e := by
  cases h with
  | notStored storing =>
    rcases storing.failure configured valid with unreported | ⟨f, rfl⟩
    · exact .unreported unreported
    · exact .render f
  | stored storing drawing =>
    have stores := storing.stores_iff.mp rfl
    obtain ⟨files, rfl⟩ := storing.world
    cases drawing with
    | notCompiled failed => exact .compile failed
    | notDrawn compiled draws =>
      rcases draws.of_files.failure stores compiled with unreported | ⟨f, rfl⟩
      · exact .unreported unreported
      · exact .render f
    | notWritten _ _ failed =>
      rw [(configured.file valid .image).2] at failed
      obtain ⟨refused, rfl⟩ := Files.write_error (configured.file valid .image).1 failed
      exact .render _

theorem renderAs_fails (configured : w.IsConfigured) (s : Scene) {given : LooseText} {n : String}
    (accepted : Accepts given n) : Fails w (renderAs s given) (RenderFailure w s n) where
  only {e w'} failed := by
    obtain ⟨result, w₁, ran, ends⟩ := renderAs_ends accepted w s
    cases ran.symm.trans failed
    exact ends.failure configured accepted.2

theorem storedContent_fails (configured : w.IsConfigured) {given : LooseText} {n : String}
    (accepted : Accepts given n) (artifact : Artifact) :
    Fails w (storedContent given artifact) (· = .fault (.missing artifact n)) := by
  unfold storedContent
  apply Fails.bind_ok (runIn_validName_ok accepted w)
  apply Fails.bind_ok (runIn_pathOf w n artifact)
  apply Fails.bind_ok (runIn_get w)
  apply Fails.ofExcept
  intro e failed
  obtain ⟨refused, rfl⟩ := Files.read_error (configured.file accepted.2 artifact).1 failed
  rfl

theorem storedSource_fails (configured : w.IsConfigured) {given : LooseText} {n : String}
    (accepted : Accepts given n) :
    Fails w (storedSource given) fun e => e = .fault (.missing .source n) ∨
      ∃ content m, w.files.read (w.settings.imagesDirectory.child (Artifact.source.file n)) =
        .ok content ∧ Utf8.decode content = .error m ∧ e = .malformedText m := by
  unfold storedSource
  apply Fails.bind ((storedContent_fails configured accepted .source).mono fun _ => .inl)
  intro content w₁ found
  apply Fails.ofExcept
  intro m malformed
  rw [storedContent_read accepted] at found
  cases read : w.files.read (w.settings.imagesDirectory.child (n ++ Artifact.source.ending)) with
  | error e =>
    rw [runIn_ofExcept_error read] at found
    cases found
  | ok other =>
    rw [runIn_ofExcept_ok read] at found
    cases found
    exact .inr ⟨_, m, read, malformed, rfl⟩

end Studio

end RayScene
