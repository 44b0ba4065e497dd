import RayScene.Agent.Example
import RayScene.Proofs.Scene.Written
import RayScene.Proofs.Studio.LastWrite

/-!
# Stored sources

A scene is stored as a text that is read as the same scene (`Studio.storeSource_keeps_scene`).
-/

namespace RayScene

/-- The text is read as the scene, which is written as this text again. -/
structure Scene.IsReadFrom (s : Scene) (text : String) : Prop where
  read (e : Edition) : Scene.ofText e text = .ok s
  again (e : Edition) (s' : Scene) : Scene.ofText e text = .ok s' → s'.source = text

theorem Scene.isReadFrom_source {v : Json} {s : Scene} (accepted : Scene.check v = .ok s)
    (storable : s.isStorable = true) : s.IsReadFrom s.source := by
  have read (e : Edition) := Scene.ofText_source e accepted storable
  refine ⟨read, fun e s' read' => ?_⟩
  cases (read e).symm.trans read'
  rfl

theorem Scene.isStorable_of_proper {s : Scene}
    (proper : ∀ net ∈ s.nets, ∀ name ∈ net, ∃ t : String, name = .proper t) :
    s.isStorable = true := by
  refine List.all_eq_true.mpr fun net isNet => List.all_eq_true.mpr fun name isName => ?_
  obtain ⟨t, rfl⟩ := proper net isNet name isName
  rfl

namespace Studio

/-- A scene whose nets name characters only has a text that it is read from, and whatever text is
stored for an accepted scene is one that it is read from. -/
theorem storeSource_keeps_scene {v : Json} {s : Scene} (accepted : Scene.check v = .ok s) :
    ((∀ net ∈ s.nets, ∀ name ∈ net, ∃ t : String, name = .proper t) →
        s.isStorable = true ∧ s.IsReadFrom s.source) ∧
      ∀ (w w' : World) (n : String), runIn w (storeSource s n) = (.ok (), w') →
        ∃ text, w'.files.read (w.settings.imagesDirectory.child (n ++ Artifact.source.ending)) =
            .ok (Utf8.encode text) ∧ s.IsReadFrom text := by
  constructor
  · intro proper
    have storable := Scene.isStorable_of_proper proper
    exact ⟨storable, Scene.isReadFrom_source accepted storable⟩
  · intro w w' n storing
    rcases storeSource_files w s n with ⟨e, failed⟩ | ⟨files, _, storable, written, stored⟩
    · cases storing.symm.trans failed
    · cases storing.symm.trans stored
      exact ⟨s.source, Files.read_write_same written, Scene.isReadFrom_source accepted storable⟩

theorem storeSource_keeps_pillar :
    Scene.check Example.pillar.scene.toJson = .ok Example.pillar.scene ∧
      Example.pillar.scene.IsReadFrom Example.pillar.scene.source ∧
      ∃ w' text, runIn (worldFor "images") (storeSource Example.pillar.scene "b") = (.ok (), w') ∧
        w'.files.read ((worldFor "images").settings.imagesDirectory.child "b.json") =
          .ok (Utf8.encode text) ∧ Example.pillar.scene.IsReadFrom text := by
  have accepted : Scene.check Example.pillar.scene.toJson = .ok Example.pillar.scene := by
    decide +kernel
  have stores :
      (runIn (worldFor "images") (storeSource Example.pillar.scene "b")).1.isOk = true := by
    decide +kernel
  obtain ⟨dumped, stored⟩ := storeSource_keeps_scene accepted
  refine ⟨accepted, (dumped ?_).2, ?_⟩
  · intro net isNet name isName
    cases List.mem_singleton.mp isNet
    simp only [List.mem_cons, List.not_mem_nil, or_false] at isName
    rcases isName with rfl | rfl
    · exact ⟨"shaft", rfl⟩
    · exact ⟨"clip", rfl⟩
  · generalize storing : runIn (worldFor "images") (storeSource Example.pillar.scene "b") = outcome
    obtain ⟨⟨⟩ | ⟨⟩, w'⟩ := outcome
    · rw [storing] at stores
      cases stores
    · obtain ⟨text, held, isRead⟩ := stored _ _ _ storing
      exact ⟨w', text, rfl, held, isRead⟩

end Studio

end RayScene
