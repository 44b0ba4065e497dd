import RayScene.Proofs.Studio.Directory
import RayScene.Studio.Store

/-!
# Empty stores

Where a store starts: nothing can be read of any artifact (`IsEmptyStore`), and nothing is listed
(`IsListable`). Both are about the directory once it is made, which for a path that goes back up
makes more directories than the last one.
-/

namespace RayScene

namespace Studio

/-- A store without artifacts, whose directory is named by a text that the system takes. -/
structure IsEmptyStore (w : World) : Prop where
  directory : ∃ text : String, '\x00' ∉ text.toList ∧ w.settings.imagesDirectory = Path.ofText text
  nothing (name : String) (artifact : Artifact) : ArtifactName.isValid name = true →
    stored (w.files.makeDirectories w.settings.imagesDirectory).1 w.settings.imagesDirectory name
      artifact = none

/-- The directory can be looked at once it is made, and if it is there then, nothing in it is
listed. -/
def IsListable (w : World) : Prop :=
  ∃ found, (w.files.makeDirectories w.settings.imagesDirectory).1.isDirectory
      w.settings.imagesDirectory = .ok found ∧
    (found = true →
      listed (w.files.makeDirectories w.settings.imagesDirectory).1 w.settings.imagesDirectory = [])

theorem stored_of_directories {fs : Files} {directory : Path}
    (h : ∀ l content executable, fs.at? l ≠ some (.file content executable)) (name : String)
    (artifact : Artifact) : stored fs directory name artifact = none := by
  cases found : stored fs directory name artifact with
  | none => rfl
  | some content =>
    obtain ⟨l, executable, _, file⟩ := Files.read_ok.mp (stored_eq_some.mp found)
    exact absurd file (h l content executable)

theorem isEmptyStore_of_directories {w : World}
    (directory : ∃ text : String,
      '\x00' ∉ text.toList ∧ w.settings.imagesDirectory = Path.ofText text)
    (h : ∀ l content executable, w.files.at? l ≠ some (.file content executable)) :
    IsEmptyStore w := by
  refine ⟨directory, fun name artifact _ => stored_of_directories ?_ name artifact⟩
  refine Files.makeDirectories_preserves
    (P := fun fs => ∀ l content executable, fs.at? l ≠ some (.file content executable)) ?_ h
  intro fs fs' before _ kept made l content executable file
  obtain ⟨location, _, free, rfl⟩ := Files.makeDirectory_ok made
  by_cases same : l = location
  · subst same
    have ground := Files.isGround_of_at? (Files.at?_ne_directory free)
    rw [Files.at?_set_same ground] at file
    cases file
  · rw [Files.at?_set_other same] at file
    exact kept l content executable file

/-- A directory on a path of plain and short names, in which nothing is listed before, is listable.
-/
theorem isListable_of_plain {w : World}
    (plain : ∀ name ∈ w.settings.imagesDirectory.parts, Files.IsPlain name)
    (short : ∀ name ∈ w.settings.imagesDirectory.parts, name.utf8ByteSize ≤ Files.maxName)
    (shortText : w.settings.imagesDirectory.text.utf8ByteSize ≤ Files.maxPath)
    (nothing : ∀ file, Files.start w.settings.imagesDirectory.root ++
      w.settings.imagesDirectory.parts ++ [file] ∈ w.files.locations →
        sceneOfFile? file = none) : IsListable w := by
  obtain ⟨found, looked⟩ : ∃ found,
      (w.files.makeDirectories w.settings.imagesDirectory).1.isDirectory
        w.settings.imagesDirectory = .ok found :=
    Files.isDirectory_short shortText short
  refine ⟨found, looked, fun _ => List.filterMap_eq_nil_iff.mpr ?_⟩
  intro file member
  cases located : (w.files.makeDirectories w.settings.imagesDirectory).1.locate
      w.settings.imagesDirectory with
  | error problem =>
    unfold Files.names at member
    rw [located] at member
    exact absurd member List.not_mem_nil
  | ok l =>
    have listed := (Files.mem_names located).mp member
    rw [Files.locate_plain plain located] at listed
    refine nothing file (Files.makeDirectories_deeper plain ?_ listed)
    simp only [List.length_append, List.length_singleton]
    omega

end Studio

end RayScene
