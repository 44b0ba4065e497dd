import RayScene.Proofs.Files.Locality
import RayScene.Proofs.Studio.Calls
import RayScene.Proofs.Studio.Failures
import RayScene.Proofs.Studio.LastWrite

/-!
# Names stay in the directory

Which names are accepted, what rendering under a name can change, what looking at an artifact
depends on, and that artifacts never share a file (`names_confined`).
-/

namespace RayScene

namespace ArtifactName

def IsNameCharacter (c : Char) : Prop :=
  ('A' ≤ c ∧ c ≤ 'Z') ∨ ('a' ≤ c ∧ c ≤ 'z') ∨ ('0' ≤ c ∧ c ≤ '9') ∨ c = '_' ∨ c = '.' ∨ c = '-'

/-- The text can be a name: it is not empty, does not start with a point, and has no other
characters. -/
structure Conforms (given : LooseText) : Prop where
  nonempty : given.points ≠ []
  noPoint : given.points.head? ≠ some (.char '.')
  characters : ∀ p ∈ given.points, ∃ c, p = .char c ∧ IsNameCharacter c

theorem isPart_iff (c : Char) : isPart c = true ↔ IsNameCharacter c := by
  have upper : c.isUpper = true ↔ 'A' ≤ c ∧ c ≤ 'Z' := decide_eq_true_iff
  have within (low high : Char) :
      (decide (low ≤ c) && decide (c ≤ high)) = true ↔ low ≤ c ∧ c ≤ high := by
    rw [Bool.and_eq_true, decide_eq_true_iff, decide_eq_true_iff]
  have lower : c.isLower = true ↔ 'a' ≤ c ∧ c ≤ 'z' := within 'a' 'z'
  have digit : c.isDigit = true ↔ '0' ≤ c ∧ c ≤ '9' := within '0' '9'
  show (c.isUpper || c.isLower || c.isDigit || decide (c = '_') || decide (c = '.') ||
    decide (c = '-')) = true ↔ _
  simp only [IsNameCharacter, Bool.or_eq_true, upper, lower, digit, decide_eq_true_eq, or_assoc]

theorem conforms_iff {given : LooseText} :
    Conforms given ↔ ∃ n, given = .proper n ∧ isValid n = true := by
  cases given with
  | proper n =>
    have same : (∃ m, LooseText.proper n = .proper m ∧ isValid m = true) ↔ isValid n = true := by
      constructor
      · rintro ⟨m, same, valid⟩
        cases same
        exact valid
      · exact fun valid => ⟨n, rfl, valid⟩
    rw [same, isValid_iff]
    constructor
    · rintro ⟨nonempty, noPoint, characters⟩
      simp only [LooseText.points] at nonempty noPoint characters
      cases text : n.toList with
      | nil =>
        rw [text] at nonempty
        exact absurd rfl nonempty
      | cons c rest =>
        rw [text] at noPoint characters
        refine ⟨c, rest, rfl, ?_, ?_⟩
        · rintro rfl
          exact noPoint rfl
        · intro d member
          obtain ⟨d', same, isName⟩ := characters _ (List.mem_map_of_mem member)
          cases same
          exact (isPart_iff d).mpr isName
    · rintro ⟨c, rest, text, noPoint, all⟩
      refine ⟨?_, ?_, ?_⟩
      · simp [LooseText.points, text]
      · simpa [LooseText.points, text] using noPoint
      · intro p member
        obtain ⟨d, inside, rfl⟩ := List.mem_map.mp member
        exact ⟨d, rfl, (isPart_iff d).mp (all d inside)⟩
  | broken before unit after =>
    constructor
    · intro conforms
      obtain ⟨c, same, _⟩ := conforms.characters (.surrogate unit)
        (List.mem_append_right _ List.mem_cons_self)
      cases same
    · rintro ⟨m, same, _⟩
      cases same

end ArtifactName

namespace Studio
open ArtifactName

variable {w : World} {given : LooseText} {n : String}

def Rejects {α : Type} (w : World) (a : Studio α) : Prop :=
  ∃ origin violations, (runIn w a).1 = .error (.fault (.schema origin violations))

theorem not_rejects {α : Type} {a : Studio α} {P : Failure → Prop} (h : Fails w a P)
    (other : ∀ origin violations, ¬ P (.fault (.schema origin violations))) : ¬ Rejects w a := by
  rintro ⟨origin, violations, failed⟩
  exact other origin violations (h.only (Prod.ext failed rfl))

theorem renderAs_not_rejects (configured : w.IsConfigured) (accepted : Accepts given n)
    (s : Scene) : ¬ Rejects w (renderAs s given) := by
  apply not_rejects (renderAs_fails configured s accepted)
  intro origin violations failed
  generalize same : Failure.fault (.schema origin violations) = e at failed
  cases failed with
  | render f => cases same
  | @compile e _ => cases e <;> cases same
  | unreported unreported => exact unreported.ne_fault _ same.symm

theorem storedImage_not_rejects (configured : w.IsConfigured) (accepted : Accepts given n) :
    ¬ Rejects w (storedImage given) := by
  apply not_rejects (storedContent_fails configured accepted .image)
  intro origin violations failed
  cases failed

theorem storedSource_not_rejects (configured : w.IsConfigured) (accepted : Accepts given n) :
    ¬ Rejects w (storedSource given) := by
  apply not_rejects (storedSource_fails configured accepted)
  rintro origin violations (failed | ⟨_, _, _, _, failed⟩)
  · cases failed
  · cases failed

/-! ### Rendering -/

/-- What rendering under a name may change of a tree at a location: a directory is made on the way
to the directory for images, or one of the two files of the name is written in it. -/
inductive Changes (directory : Path) (name : String) (fs fs' : Files) (l : Location) : Prop
  | made : fs.at? l = none → fs'.at? l = some .directory → fs'.LeadsThrough directory l →
      Changes directory name fs fs' l
  | stored (artifact : Artifact) {above : Location} {content : Bytes} {executable : Bool} :
      l = above ++ [artifact.file name] → fs'.LeadsTo directory above →
      fs.at? l ≠ some .directory → fs'.at? l = some (.file content executable) →
      Changes directory name fs fs' l

def Confined (directory : Path) (name : String) (fs fs' : Files) : Prop :=
  ∀ l, fs'.at? l = fs.at? l ∨ Changes directory name fs fs' l

theorem confined_makeDirectories (fs : Files) (directory : Path) (name : String) :
    Confined directory name fs (fs.makeDirectories directory).1 := by
  intro l
  rcases Files.at?_makeDirectories fs directory l with same | ⟨absent, there, through⟩
  · exact .inl same
  · exact .inr (.made absent there through)

theorem Confined.write {fs made fs' : Files} {directory : Path} {artifact : Artifact}
    {content : Bytes} (h : Confined directory n fs made) (valid : isValid n = true)
    (written : made.write (directory.child (artifact.file n)) content = .ok fs') :
    Confined directory n fs fs' := by
  obtain ⟨above, executable, leads, free, rfl⟩ :=
    Files.write_child (Artifact.isPlain_file artifact valid) written
  intro l
  by_cases here : l = above ++ [artifact.file n]
  · have old : fs.at? l ≠ some .directory := by
      subst here
      rcases h (above ++ [artifact.file n]) with same | change
      · rwa [← same]
      · cases change with
        | made _ there _ => exact absurd there free
        | stored _ _ _ old _ => exact old
    have new : (made.set (above ++ [artifact.file n]) (.file content executable)).at? l =
        some (.file content executable) := by
      rw [here]
      exact Files.at?_set_same (Files.isGround_of_at? free) _
    exact .inr (.stored artifact here (leads.set _ free) old new)
  · rw [Files.at?_set_other here]
    rcases h l with same | change
    · exact .inl same
    · right
      cases change with
      | made absent there through =>
        exact .made absent ((Files.at?_set_other here _ _).trans there) (through.set _ free)
      | stored other place leads' old there =>
        exact .stored other place (leads'.set _ free) old
          ((Files.at?_set_other here _ _).trans there)

/-- Rendering under a name changes nothing but the runs and, within the limits of the name, the
files. -/
theorem RenderingEnds.confined {w' : World} {s : Scene} {result : Except Failure Bytes}
    (isRead : Path.IsRead w.settings.imagesDirectory) (valid : isValid n = true)
    (h : RenderingEnds w s n result w') :
    ∃ runs files, w' = { w with runs, files } ∧
      Confined w.settings.imagesDirectory n w.files files := by
  have made := confined_makeDirectories w.files w.settings.imagesDirectory n
  cases h with
  | notStored storing =>
    obtain rfl := storing.error_world
    exact ⟨_, _, rfl, made⟩
  | stored storing drawing =>
    obtain ⟨_, _, files, stored, rfl⟩ := storing.ok_world
    have kept := made.write valid stored
    cases drawing with
    | notCompiled _ => exact ⟨_, _, rfl, kept⟩
    | notDrawn _ _ => exact ⟨_, _, rfl, kept⟩
    | notWritten _ _ _ => exact ⟨_, _, rfl, kept⟩
    | written _ _ written =>
      have place := Path.ofText_text (isRead.child
        (isPart_of_isValid (Artifact.isValid_file .image valid)))
      dsimp only at written
      rw [place] at written
      exact ⟨_, _, rfl, kept.write valid written⟩

theorem renderAs_confined (isRead : Path.IsRead w.settings.imagesDirectory)
    (accepted : Accepts given n) (s : Scene) :
    ∃ runs files, (runIn w (renderAs s given)).2 = { w with runs, files } ∧
      Confined w.settings.imagesDirectory n w.files files := by
  obtain ⟨result, w', ran, ends⟩ := renderAs_ends accepted w s
  rw [ran]
  exact ends.confined isRead accepted.2

/-- In a world with the same directory, where the path of the artifact passes the same entries, the
artifact looks the same. -/
theorem storedContent_along {w' : World} (accepted : Accepts given n) {artifact : Artifact}
    (directory : w'.settings.imagesDirectory = w.settings.imagesDirectory)
    (same : w.files.SameAlong w'.files
      (w.settings.imagesDirectory.child (artifact.file n))) :
    runIn w' (storedContent given artifact) = ((runIn w (storedContent given artifact)).1, w') := by
  have read := Files.read_sameAlong same
  rw [storedContent_read accepted, storedContent_read accepted, directory, ← Artifact.file, read]
  cases w.files.read (w.settings.imagesDirectory.child (artifact.file n)) with
  | error e => rfl
  | ok content => rfl

theorem storedSource_along {w' : World} (accepted : Accepts given n)
    (directory : w'.settings.imagesDirectory = w.settings.imagesDirectory)
    (same : w.files.SameAlong w'.files
      (w.settings.imagesDirectory.child (Artifact.source.file n))) :
    runIn w' (storedSource given) = ((runIn w (storedSource given)).1, w') := by
  have content := storedContent_along accepted directory same
  unfold storedSource
  rcases found : runIn w (storedContent given .source) with ⟨e | bytes, w₁⟩
  · rw [found] at content
    rw [runIn_bind_error content, runIn_bind_error found]
  · rw [found] at content
    rw [runIn_bind_ok content, runIn_bind_ok found]
    cases Utf8.decode bytes with
    | error m => rfl
    | ok text => rfl

theorem place_injective {directory : Path} (isRead : Path.IsRead directory) {m : String}
    (valid : isValid n = true) (valid' : isValid m = true) {a b : Artifact}
    (h : (directory.child (a.file n)).text = (directory.child (b.file m)).text ∨
      ∃ (fs : Files) (l : Location), fs.locate (directory.child (a.file n)) = .ok l ∧
        fs.locate (directory.child (b.file m)) = .ok l) : a = b ∧ n = m := by
  apply Artifact.file_injective
  rcases h with text | ⟨fs, l, one, other⟩
  · have path := congrArg Path.ofText text
    rw [Path.ofText_text (isRead.child (isPart_of_isValid (Artifact.isValid_file a valid))),
      Path.ofText_text (isRead.child (isPart_of_isValid (Artifact.isValid_file b valid')))] at path
    exact List.singleton_inj.mp (List.append_cancel_left (congrArg Path.parts path))
  · obtain ⟨above, leads⟩ := Files.leadsTo_of_locate_child one
    have first := Files.location_of_child leads (Artifact.isPlain_file a valid) one
    have second := Files.location_of_child leads (Artifact.isPlain_file b valid') other
    exact List.singleton_inj.mp (List.append_cancel_left (first.symm.trans second))

/-- A name that does not conform is refused, and nothing has happened. Any other name is not; all
that rendering under it may change is the directory with those above it and the two files of the
name, what looking at these gives depends on the way to them only, and no other name shares them. -/
theorem names_confined (configured : w.IsConfigured) (given : LooseText) :
    (¬ Conforms given →
      (∀ s, runIn w (renderAs s given) = (.error nameFailure, w)) ∧
        runIn w (storedImage given) = (.error nameFailure, w) ∧
        runIn w (storedSource given) = (.error nameFailure, w)) ∧
    (Conforms given →
      ((∀ s, ¬ Rejects w (renderAs s given)) ∧ ¬ Rejects w (storedImage given) ∧
        ¬ Rejects w (storedSource given)) ∧
      ∃ n, given = .proper n ∧
        (∀ s, ∃ runs files, (runIn w (renderAs s given)).2 = { w with runs, files } ∧
          Confined w.settings.imagesDirectory n w.files files) ∧
        (∀ w' : World, w'.settings.imagesDirectory = w.settings.imagesDirectory →
          (w.files.SameAlong w'.files
              (w.settings.imagesDirectory.child (Artifact.image.file n)) →
            runIn w' (storedImage given) = ((runIn w (storedImage given)).1, w')) ∧
          (w.files.SameAlong w'.files
              (w.settings.imagesDirectory.child (Artifact.source.file n)) →
            runIn w' (storedSource given) = ((runIn w (storedSource given)).1, w'))) ∧
        ∀ m, Conforms (.proper m) → ∀ a b : Artifact,
          ((w.settings.imagesDirectory.child (a.file n)).text =
              (w.settings.imagesDirectory.child (b.file m)).text ∨
            ∃ (fs : Files) (l : Location),
              fs.locate (w.settings.imagesDirectory.child (a.file n)) = .ok l ∧
              fs.locate (w.settings.imagesDirectory.child (b.file m)) = .ok l) →
          a = b ∧ n = m) := by
  constructor
  · intro refused
    have rejected : ∀ n, ¬ Accepts given n :=
      fun n accepted => refused (conforms_iff.mpr ⟨n, accepted⟩)
    exact ⟨renderAs_rejected rejected w, storedContent_rejected rejected w .image,
      storedSource_rejected rejected w⟩
  · intro conforms
    obtain ⟨n, accepted⟩ := conforms_iff.mp conforms
    refine ⟨⟨renderAs_not_rejects configured accepted, storedImage_not_rejects configured accepted,
      storedSource_not_rejects configured accepted⟩, n, accepted.1, ?_, ?_, ?_⟩
    · exact renderAs_confined configured.isRead accepted
    · exact fun w' directory => ⟨storedContent_along accepted directory,
        storedSource_along accepted directory⟩
    · intro m conforms' a b same
      obtain ⟨m', proper, valid⟩ := conforms_iff.mp conforms'
      cases proper
      exact place_injective configured.isRead accepted.2 valid same

theorem isConfigured_images : (worldFor "images").IsConfigured := by
  have settings : Settings.ofEnvironment [("IMAGES_DIR", "images")] =
      .ok (worldFor "images").settings := rfl
  exact World.isConfigured_of_environment settings

theorem names_confined_images :
    (worldFor "images").IsConfigured ∧ Conforms "a.json" ∧ ¬ Conforms ".." ∧
      ¬ Rejects (worldFor "images") (storedSource "a.json") ∧
      runIn (worldFor "images") (storedSource "..") = (.error nameFailure, worldFor "images") := by
  have conforms : Conforms "a.json" := conforms_iff.mpr ⟨"a.json", rfl, rfl⟩
  have hidden : ¬ Conforms ".." := fun h => h.noPoint rfl
  obtain ⟨_, accepted⟩ := names_confined isConfigured_images "a.json"
  obtain ⟨refused, _⟩ := names_confined isConfigured_images ".."
  exact ⟨isConfigured_images, conforms, hidden, (accepted conforms).1.2.2, (refused hidden).2.2⟩

end Studio
end RayScene
