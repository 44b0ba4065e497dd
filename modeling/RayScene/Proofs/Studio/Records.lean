import RayScene.Proofs.Studio.Calls

/-!
# What is known is what is stored

Two properties that survive every call on a store: what is known of an artifact is what can be read
of it (`Records`), and the scenes that are listed are those with a known source (`Lists`).
-/

namespace RayScene.Studio

variable {directory : Path} {fs : Files} {known : Known} {name : String} {artifact : Artifact}

/-- Once the directory is made, what is known can be read; and nothing is known before. -/
structure Records (directory : Path) (fs : Files) (known : Known) : Prop where
  kept (name : String) (artifact : Artifact) : known name artifact =
    if ArtifactName.isValid name = true then
      stored (fs.makeDirectories directory).1 directory name artifact
    else none
  begun : (fs.makeDirectories directory).1 = fs ∨ ∀ name artifact, known name artifact = none

theorem records_survive (directory : Path) : Survives directory (Records directory) where
  made {fs known} h := by
    have again := Files.makeDirectories_again fs directory
    refine ⟨fun name artifact => ?_, .inl again⟩
    rw [again]
    exact h.kept name artifact
  write {fs fs' known name artifact content} h made valid written := by
    have there := makeDirectories_write written
    refine ⟨fun other another => ?_, .inl there⟩
    rw [there, Known.update]
    by_cases same : other = name ∧ another = artifact
    · obtain ⟨rfl, rfl⟩ := same
      rw [if_pos ⟨rfl, rfl⟩, if_pos valid, stored_write_same written]
    · rw [if_neg same, h.kept, made]
      by_cases validOther : ArtifactName.isValid other = true
      · rw [if_pos validOther, if_pos validOther, stored_write_other valid written validOther same]
      · rw [if_neg validOther, if_neg validOther]

/-- What is known is what can be read, whether the directory is made yet or not. -/
theorem Records.stored_eq (h : Records directory fs known)
    (valid : ArtifactName.isValid name = true) (artifact : Artifact) :
    stored fs directory name artifact = known name artifact := by
  have kept := h.kept name artifact
  rw [if_pos valid] at kept
  rcases h.begun with made | nothing
  · rw [kept, made]
  · cases found : stored fs directory name artifact with
    | none => exact (nothing name artifact).symm
    | some content =>
      rw [Files.makeDirectories_of_isDirectory (isDirectory_of_stored found), found] at kept
      exact kept.symm

theorem Records.isDirectory (h : Records directory fs known) {content : Bytes}
    (something : known name artifact = some content) : fs.isDirectory directory = .ok true := by
  have kept := h.kept name artifact
  rw [something] at kept
  split at kept
  case isTrue valid => exact isDirectory_of_stored ((h.stored_eq valid artifact).trans something)
  case isFalse => cases kept

/-- Once the directory is made it can be looked at, and if it is there then, it lists the scenes
with a known source. -/
structure Lists (directory : Path) (fs : Files) (known : Known) : Prop where
  looked : ∃ found, (fs.makeDirectories directory).1.isDirectory directory = .ok found
  scenes : (fs.makeDirectories directory).1.isDirectory directory = .ok true →
    (listed (fs.makeDirectories directory).1 directory).Nodup ∧
      ∀ name, name ∈ listed (fs.makeDirectories directory).1 directory ↔
        (known name .source).isSome = true

theorem lists_survive (directory : Path) : Survives directory (Lists directory) where
  made {fs known} h := by
    have again := Files.makeDirectories_again fs directory
    obtain ⟨looked, scenes⟩ := h
    rw [← again] at looked scenes
    exact ⟨looked, scenes⟩
  write {fs fs' known name artifact content} h made valid written := by
    have there := makeDirectories_write written
    have scenes := h.scenes
    rw [made] at scenes
    obtain ⟨nodup, mem⟩ := scenes (isDirectory_before_write written)
    refine ⟨⟨true, ?_⟩, fun _ => ?_⟩
    · rw [there]
      exact isDirectory_write written
    rw [there]
    cases artifact with
    | image =>
      rw [listed_write_image valid written]
      refine ⟨nodup, fun other => ?_⟩
      rw [Known.update_other_artifact (by decide)]
      exact mem other
    | source =>
      refine ⟨nodup_listed_write_source valid written nodup, fun other => ?_⟩
      rw [mem_listed_write_source valid written]
      by_cases same : other = name
      · subst same
        rw [Known.update_same]
        exact ⟨fun _ => rfl, fun _ => .inl rfl⟩
      · rw [Known.update_other_name same, ← mem other]
        exact or_iff_right same

theorem made_survives (directory : Path) :
    Survives directory fun fs _ => (fs.makeDirectories directory).1 = fs where
  made {fs _} _ := Files.makeDirectories_again fs directory
  write _ _ _ written := makeDirectories_write written

theorem isDirectory_survives (directory : Path) (looked : Except SystemError Bool) :
    Survives directory fun fs _ =>
      (fs.makeDirectories directory).1.isDirectory directory = looked where
  made {fs _} h := by
    rw [Files.makeDirectories_again fs directory]
    exact h
  write {fs fs' _ name artifact content} h made _ written := by
    rw [made, isDirectory_before_write written] at h
    rw [makeDirectories_write written, isDirectory_write written]
    exact h

theorem listed_survives (directory : Path) (scene : String) :
    Survives directory fun fs _ => scene ∈ listed (fs.makeDirectories directory).1 directory where
  made {fs _} h := by
    rw [Files.makeDirectories_again fs directory]
    exact h
  write {fs fs' _ name artifact content} h made valid written := by
    rw [made] at h
    rw [makeDirectories_write written]
    cases artifact with
    | source => exact (mem_listed_write_source valid written scene).mpr (.inr h)
    | image =>
      rw [listed_write_image valid written]
      exact h

end RayScene.Studio
