import Mathlib.Data.List.Nodup
import RayScene.Proofs.Files.Directories
import RayScene.Proofs.Studio.Artifacts

/-!
# The directory of a store

What a directory holds of artifacts: writing one artifact changes what can be read of that one only,
and lists its name if it is a source.
-/

namespace RayScene.Studio

def stored (fs : Files) (directory : Path) (name : String) (artifact : Artifact) : Option Bytes :=
  (fs.read (directory.child (artifact.file name))).toOption

def listed (fs : Files) (directory : Path) : List String :=
  (fs.names directory).filterMap sceneOfFile?

variable {fs fs' : Files} {directory : Path} {name : String} {artifact : Artifact}
  {content : Bytes}

theorem stored_eq_some :
    stored fs directory name artifact = some content ↔
      fs.read (directory.child (artifact.file name)) = .ok content := by
  unfold stored
  cases fs.read (directory.child (artifact.file name)) with
  | error e => simp [Except.toOption]
  | ok found => simp [Except.toOption]

theorem isDirectory_of_stored (h : stored fs directory name artifact = some content) :
    fs.isDirectory directory = .ok true := by
  obtain ⟨l, _, accessed, _⟩ := Files.read_ok.mp (stored_eq_some.mp h)
  obtain ⟨noNull, located⟩ := Files.access_ok.mp accessed
  exact Files.isDirectory_of_locate_child noNull located

section Write

variable (valid : ArtifactName.isValid name = true)
  (h : fs.write (directory.child (artifact.file name)) content = .ok fs')

include h in
theorem isDirectory_before_write : fs.isDirectory directory = .ok true := by
  obtain ⟨l, _, accessed, _⟩ := Files.write_ok h
  obtain ⟨noNull, located⟩ := Files.access_ok.mp accessed
  exact Files.isDirectory_of_locate_child noNull located

include h in
theorem stored_write_same : stored fs' directory name artifact = some content :=
  stored_eq_some.mpr (Files.read_write_same h)

include h in
theorem isDirectory_write : fs'.isDirectory directory = .ok true :=
  isDirectory_of_stored (stored_write_same h)

include h in
theorem makeDirectories_write : (fs'.makeDirectories directory).1 = fs' :=
  congrArg Prod.fst (Files.makeDirectories_of_isDirectory (isDirectory_write h))

include valid h in
theorem stored_write_other {other : String} {another : Artifact}
    (validOther : ArtifactName.isValid other = true)
    (different : ¬ (other = name ∧ another = artifact)) :
    stored fs' directory other another = stored fs directory other another := by
  unfold stored
  rw [Files.read_write_other (Artifact.isPlain_file artifact valid)
    (Artifact.isPlain_file another validOther) _ h]
  intro same
  obtain ⟨sameArtifact, sameName⟩ := Artifact.file_injective same
  exact different ⟨sameName, sameArtifact⟩

end Write

theorem mem_listed (valid : ArtifactName.isValid name = true) :
    name ∈ listed fs directory ↔ Artifact.source.file name ∈ fs.names directory := by
  unfold listed
  rw [List.mem_filterMap]
  constructor
  · rintro ⟨file, member, scene⟩
    rwa [file_of_sceneOfFile? valid scene] at member
  · exact fun member => ⟨_, member, sceneOfFile?_source valid⟩

theorem listed_write_image (valid : ArtifactName.isValid name = true)
    (h : fs.write (directory.child (Artifact.image.file name)) content = .ok fs') :
    listed fs' directory = listed fs directory := by
  unfold listed
  rw [Files.names_write (Artifact.isPlain_file _ valid) h]
  split
  · rfl
  · rw [List.filterMap_append, List.filterMap_cons_none (sceneOfFile?_image name),
      List.filterMap_nil, List.append_nil]

theorem listed_write_source (valid : ArtifactName.isValid name = true)
    (h : fs.write (directory.child (Artifact.source.file name)) content = .ok fs') :
    listed fs' directory =
      if name ∈ listed fs directory then listed fs directory
      else listed fs directory ++ [name] := by
  have entries := Files.names_write
    (Artifact.isPlain_file _ valid) h
  by_cases member : name ∈ listed fs directory
  · rw [if_pos ((mem_listed valid).mp member)] at entries
    rw [if_pos member, listed, entries]
    rfl
  · rw [if_neg (mt (mem_listed valid).mpr member)] at entries
    rw [if_neg member, listed, entries, List.filterMap_append,
      List.filterMap_cons_some (sceneOfFile?_source valid), List.filterMap_nil]
    rfl

theorem mem_listed_write_source (valid : ArtifactName.isValid name = true)
    (h : fs.write (directory.child (Artifact.source.file name)) content = .ok fs')
    (other : String) :
    other ∈ listed fs' directory ↔ other = name ∨ other ∈ listed fs directory := by
  rw [listed_write_source valid h]
  by_cases old : name ∈ listed fs directory
  · rw [if_pos old]
    constructor
    · exact .inr
    · rintro (rfl | member)
      · exact old
      · exact member
  · rw [if_neg old, List.mem_append, List.mem_singleton, or_comm]

theorem nodup_listed_write_source (valid : ArtifactName.isValid name = true)
    (h : fs.write (directory.child (Artifact.source.file name)) content = .ok fs')
    (nodup : (listed fs directory).Nodup) : (listed fs' directory).Nodup := by
  rw [listed_write_source valid h]
  split
  case isTrue => exact nodup
  case isFalse new =>
    rw [← List.concat_eq_append]
    exact nodup.concat new

end RayScene.Studio
