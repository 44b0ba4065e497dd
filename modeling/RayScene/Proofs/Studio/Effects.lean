import RayScene.Proofs.Files.Locality
import RayScene.Proofs.Studio.Failures

/-!
# What rendering leaves

What each end of rendering has done to the two artifacts of its name: a source is stored before any
program runs, an image is written only after both programs succeeded, and whatever is not written is
as it was.
-/

namespace RayScene.Studio

variable {w w' : World} {s : Scene} {n : String} {fs fs' made : Files} {directory : Path}
  {artifact other : Artifact} {content : Bytes}

/-- What could be read of an artifact still can, and at its place there is no other file. -/
structure Untouched (fs fs' : Files) (directory : Path) (name : String) (artifact : Artifact) :
    Prop where
  kept {content : Bytes} : fs.read (directory.child (artifact.file name)) = .ok content →
    fs'.read (directory.child (artifact.file name)) = .ok content
  place {l : Location} {content : Bytes} {executable : Bool} :
    fs'.locate (directory.child (artifact.file name)) = .ok l →
    (fs'.at? l = some (.file content executable) ↔ fs.at? l = some (.file content executable))

theorem untouched_makeDirectories (fs : Files) (directory : Path) (name : String)
    (artifact : Artifact) :
    Untouched fs (fs.makeDirectories directory).1 directory name artifact where
  kept found := by
    have there := isDirectory_of_stored (stored_eq_some.mpr found)
    rw [Files.makeDirectories_of_isDirectory there]
    exact found
  place {l content executable} _ := by
    rcases Files.at?_makeDirectories fs directory l with same | ⟨absent, there, _⟩
    · rw [same]
    · rw [absent, there]
      exact ⟨nofun, nofun⟩

theorem Untouched.write (h : Untouched fs made directory n artifact)
    (valid : ArtifactName.isValid n = true) (different : artifact ≠ other)
    (written : made.write (directory.child (other.file n)) content = .ok fs') :
    Untouched fs fs' directory n artifact where
  kept found := by
    rw [Files.read_write_other (Artifact.isPlain_file other valid)
      (Artifact.isPlain_file artifact valid) _ written]
    · exact h.kept found
    · exact fun same => different (Artifact.file_injective same).1
  place {l c executable'} located := by
    obtain ⟨above, executable, leads, free, rfl⟩ :=
      Files.write_child (Artifact.isPlain_file other valid) written
    have located' : made.locate (directory.child (artifact.file n)) = .ok l := by
      rw [Files.locate_child leads (Artifact.isPlain_file artifact valid)]
      rwa [Files.locate_child (leads.set _ free) (Artifact.isPlain_file artifact valid)] at located
    have elsewhere : l ≠ above ++ [other.file n] := by
      rw [Files.location_of_child leads (Artifact.isPlain_file artifact valid) located']
      intro same
      have name := List.singleton_inj.mp (List.append_cancel_left same)
      exact different (Artifact.file_injective name).1
    rw [Files.at?_set_other elsewhere]
    exact h.place located'

namespace StoringEnds

theorem untouched_of_error {e : Failure} (h : StoringEnds w s n (.error e) w')
    (artifact : Artifact) :
    Untouched w.files w'.files w.settings.imagesDirectory n artifact := by
  rw [h.error_world]
  exact untouched_makeDirectories _ _ _ _

theorem untouched_image (h : StoringEnds w s n (.ok ()) w')
    (valid : ArtifactName.isValid n = true) :
    Untouched w.files w'.files w.settings.imagesDirectory n .image := by
  obtain ⟨_, _, files, written, rfl⟩ := h.ok_world
  exact (untouched_makeDirectories _ _ _ _).write valid (by decide) written

theorem source (h : StoringEnds w s n (.ok ()) w') :
    w'.files.read (w.settings.imagesDirectory.child (Artifact.source.file n)) =
      .ok (Utf8.encode s.source) := by
  obtain ⟨_, _, files, written, rfl⟩ := h.ok_world
  exact Files.read_write_same written

end StoringEnds

/-- What a rendering under a name that failed has done: storing the source failed, or the scene does
not compile, or the programs were tried. -/
inductive Fell (w : World) (s : Scene) (n : String) (e : Failure) (w' : World) : Prop
  | storing : Unreported w s n e ∨ IsRenderFault e → w'.runs = w.runs →
      Untouched w.files w'.files w.settings.imagesDirectory n .source → Fell w s n e w'
  | compiling {e' : CompileError} : s.compileText w.trig = .error e' → e = Failure.ofCompile e' →
      w'.runs = w.runs →
      w'.files.read (w.settings.imagesDirectory.child (Artifact.source.file n)) =
        .ok (Utf8.encode s.source) → Fell w s n e w'
  | drawing {text : String} {runs : List Invocation} {result : Except Failure Bytes} :
      s.compileText w.trig = .ok text → Draws w text w.settings.timeout runs result →
      Unreported w s n e ∨ IsRenderFault e → w'.runs = w.runs ++ runs →
      w'.files.read (w.settings.imagesDirectory.child (Artifact.source.file n)) =
        .ok (Utf8.encode s.source) → Fell w s n e w'

namespace RenderingEnds

variable (configured : w.IsConfigured) (valid : ArtifactName.isValid n = true)

include configured valid

theorem fell {e : Failure} (h : RenderingEnds w s n (.error e) w') :
    Fell w s n e w' ∧ Untouched w.files w'.files w.settings.imagesDirectory n .image := by
  cases h with
  | notStored storing =>
    refine ⟨.storing ?_ ?_ (storing.untouched_of_error _), storing.untouched_of_error _⟩
    · exact storing.failure configured valid
    · rw [storing.error_world]
  | stored storing drawing =>
    have source := storing.source
    have image := storing.untouched_image valid
    have stores := storing.stores_iff.mp rfl
    obtain ⟨files, rfl⟩ := storing.world
    cases drawing with
    | notCompiled failed => exact ⟨.compiling failed rfl rfl source, image⟩
    | notDrawn compiled draws =>
      have failed := draws.of_files.failure stores compiled
      exact ⟨.drawing compiled draws.of_files failed rfl source, image⟩
    | notWritten compiled draws failed =>
      rw [(configured.file valid .image).2] at failed
      obtain ⟨refused, rfl⟩ := Files.write_error (configured.file valid .image).1 failed
      exact ⟨.drawing compiled draws.of_files (.inr ⟨_, rfl⟩) rfl source, image⟩

/-- A rendering under a name that succeeded has run both programs, and stored source and image. -/
theorem drawn {png : Bytes} (h : RenderingEnds w s n (.ok png) w') :
    (∃ text runs, s.compileText w.trig = .ok text ∧
        Draws w text w.settings.timeout runs (.ok png) ∧ w'.runs = w.runs ++ runs) ∧
      w'.files.read (w.settings.imagesDirectory.child (Artifact.source.file n)) =
        .ok (Utf8.encode s.source) ∧
      w'.files.read (w.settings.imagesDirectory.child (Artifact.image.file n)) = .ok png := by
  cases h with
  | stored storing drawing =>
    have source := storing.source
    obtain ⟨files, rfl⟩ := storing.world
    cases drawing with
    | written compiled draws written =>
      rw [(configured.file valid .image).2] at written
      refine ⟨⟨_, _, compiled, draws.of_files, rfl⟩, ?_, Files.read_write_same written⟩
      rw [Files.read_write_other (Artifact.isPlain_file .image valid)
        (Artifact.isPlain_file .source valid) _ written]
      · exact source
      · exact fun same => absurd (Artifact.file_injective same).1 (by decide)

end RenderingEnds

end RayScene.Studio
