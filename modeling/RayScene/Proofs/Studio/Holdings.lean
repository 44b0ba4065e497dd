import RayScene.Proofs.Studio.LastWrite

/-!
# Stores of scenes

A store holds scenes if each source that can be read in it is the text of a scene. Calls on a store
that starts empty leave such a store (`IsEmptyStore.holdsScenes`), and so does every further call.
-/

namespace RayScene.Studio

variable {w : World}

/-- Whatever can be read as a source, once the directory is made, was stored for a scene. -/
def HoldsScenes (w : World) : Prop :=
  ∃ known, Records w.settings.imagesDirectory w.files known ∧
    ∀ n content, known n .source = some content → ∃ s : Scene, content = Utf8.encode s.source

theorem HoldsScenes.decode (h : HoldsScenes w) {n : String} (valid : ArtifactName.isValid n = true)
    {content : Bytes}
    (found : w.files.read (w.settings.imagesDirectory.child (Artifact.source.file n)) =
      .ok content) : ∃ s : Scene, Utf8.decode content = .ok s.source := by
  obtain ⟨known, records, scenes⟩ := h
  have isKnown : known n .source = some content := by
    rw [← records.stored_eq valid]
    exact stored_eq_some.mpr found
  obtain ⟨s, rfl⟩ := scenes n content isKnown
  exact ⟨s, Utf8.decode_encode s.source⟩

theorem HoldsScenes.leave (h : HoldsScenes w) (isRead : Path.IsRead w.settings.imagesDirectory)
    (call : Call) : HoldsScenes (call.leave w) := by
  obtain ⟨known, records, scenes⟩ := h
  refine ⟨known.after w call, ?_, ?_⟩
  · rw [call.leave_settings]
    exact call.leave_keeps (records_survive _) isRead records
  · intro n content isKnown
    rcases Option.or_eq_some_iff.mp isKnown with new | ⟨_, old⟩
    · obtain ⟨s, _, rfl⟩ := Option.map_eq_some_iff.mp new
      exact ⟨s, rfl⟩
    · exact scenes n content old

/-- After any calls on a store that was empty, it holds scenes only. -/
theorem IsEmptyStore.holdsScenes {start : World} (empty : IsEmptyStore start) (steps : List Step)
    (around : World) : HoldsScenes (amid around (runFrom start steps)) := by
  refine ⟨knownAfter start steps, empty.records steps, fun n content isKnown => ?_⟩
  rw [knownAfter_source] at isKnown
  obtain ⟨s, _, rfl⟩ := Option.map_eq_some_iff.mp isKnown
  exact ⟨s, rfl⟩

end RayScene.Studio
