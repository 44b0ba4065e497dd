import Mathlib.Init
import RayScene.Proofs.Files.Tree
import RayScene.Studio.Store

/-!
# Names of artifacts and their files

A valid name and an artifact give a file name that is a plain name in a directory, different names
or artifacts give different file names, and from the file names the names with a source are
recovered.
-/

namespace RayScene

namespace ArtifactName

theorem isValid_iff {name : String} :
    isValid name = true ↔
      ∃ c rest, name.toList = c :: rest ∧ c ≠ '.' ∧ ∀ d ∈ name.toList, isPart d = true := by
  unfold isValid
  cases characters : name.toList with
  | nil => simp
  | cons c rest => simp [and_assoc]

theorem isValid_append {name ending : String} (h : isValid name = true)
    (parts : ending.toList.all isPart = true) : isValid (name ++ ending) = true := by
  obtain ⟨c, rest, characters, noPoint, all⟩ := isValid_iff.mp h
  refine isValid_iff.mpr ⟨c, rest ++ ending.toList, ?_, noPoint, ?_⟩
  · rw [String.toList_append, characters, List.cons_append]
  · intro d member
    rw [String.toList_append] at member
    rcases List.mem_append.mp member with inName | inEnding
    · exact all d inName
    · exact List.all_eq_true.mp parts d inEnding

theorem not_mem_of_isValid {name : String} (h : isValid name = true) {c : Char}
    (other : isPart c = false) : c ∉ name.toList := by
  obtain ⟨_, _, _, _, all⟩ := isValid_iff.mp h
  intro member
  rw [all c member] at other
  cases other

theorem isPart_of_isValid {name : String} (h : isValid name = true) : Path.IsPart name := by
  refine ⟨?_, ?_, not_mem_of_isValid h rfl⟩
  · rintro rfl
    cases h
  · rintro rfl
    cases h

theorem isPlain_of_isValid {name : String} (h : isValid name = true) : Files.IsPlain name := by
  constructor
  · rintro rfl
    cases h
  · rintro rfl
    cases h

end ArtifactName

namespace Artifact

def file (artifact : Artifact) (name : String) : String := name ++ artifact.ending

theorem isValid_file (artifact : Artifact) {name : String} (h : ArtifactName.isValid name = true) :
    ArtifactName.isValid (artifact.file name) = true := by
  refine ArtifactName.isValid_append h ?_
  cases artifact with
  | source => rfl
  | image => rfl

theorem isPlain_file (artifact : Artifact) {name : String}
    (h : ArtifactName.isValid name = true) : Files.IsPlain (artifact.file name) :=
  ArtifactName.isPlain_of_isValid (isValid_file artifact h)

theorem file_injective {a b : Artifact} {n m : String} (h : a.file n = b.file m) :
    a = b ∧ n = m := by
  have characters := congrArg String.toList h
  unfold file at characters
  rw [String.toList_append, String.toList_append] at characters
  have last := congrArg List.getLast? characters
  have same : a = b := by
    cases a <;> cases b
    · rfl
    · simp [ending] at last
    · simp [ending] at last
    · rfl
  subst same
  exact ⟨rfl, String.toList_injective (List.append_cancel_right characters)⟩

end Artifact

namespace Studio

theorem sceneOfFile?_source {name : String} (h : ArtifactName.isValid name = true) :
    sceneOfFile? (Artifact.source.file name) = some name := by
  have nonempty : name.toList ≠ [] := by
    obtain ⟨c, rest, characters, _⟩ := ArtifactName.isValid_iff.mp h
    rw [characters]
    exact List.cons_ne_nil _ _
  have characters : (Artifact.source.file name).toList =
      name.toList ++ Artifact.source.ending.toList := String.toList_append
  unfold sceneOfFile?
  rw [characters]
  dsimp only
  rw [if_neg (fun same => nonempty (List.append_left_eq_self.mp same)), if_pos]
  · rw [List.length_append, Nat.add_sub_cancel, List.take_left, String.ofList_toList]
  · exact List.isSuffixOf_iff_suffix.mpr (List.suffix_append _ _)

theorem sceneOfFile?_image (name : String) :
    sceneOfFile? (Artifact.image.file name) = none := by
  have characters : (Artifact.image.file name).toList =
      name.toList ++ ['.', 'p', 'n', 'g'] := String.toList_append
  have noSource : ¬ Artifact.source.ending.toList <:+ name.toList ++ ['.', 'p', 'n', 'g'] := by
    rintro ⟨before, same⟩
    have last := congrArg List.getLast? same
    simp [Artifact.ending] at last
  have notHidden : name.toList ++ ['.', 'p', 'n', 'g'] ≠ Artifact.source.ending.toList := by
    intro same
    rw [same] at noSource
    exact noSource List.suffix_rfl
  have notFound : ¬ Artifact.source.ending.toList.isSuffixOf
      (name.toList ++ ['.', 'p', 'n', 'g']) = true :=
    fun suffix => noSource (List.isSuffixOf_iff_suffix.mp suffix)
  unfold sceneOfFile?
  rw [characters]
  dsimp only
  rw [if_neg notHidden, if_neg notFound]

theorem file_of_sceneOfFile? {file name : String} (valid : ArtifactName.isValid name = true)
    (h : sceneOfFile? file = some name) : file = Artifact.source.file name := by
  unfold sceneOfFile? at h
  dsimp only at h
  split at h
  case isTrue hidden =>
    cases h
    rw [String.toList_injective hidden] at valid
    cases valid
  case isFalse =>
    split at h
    case isFalse => cases h
    case isTrue suffix =>
      obtain ⟨before, characters⟩ := List.isSuffixOf_iff_suffix.mp suffix
      have found := Option.some.inj h
      rw [← characters, List.length_append, Nat.add_sub_cancel, List.take_left] at found
      apply String.toList_injective
      rw [← characters, Artifact.file, String.toList_append, ← found, String.toList_ofList]

end Studio

end RayScene
