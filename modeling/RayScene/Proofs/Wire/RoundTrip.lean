import RayScene.Agent.Example
import RayScene.Proofs.Scene.Accepted
import RayScene.Proofs.Scene.Nets

/-!
# Compiled scenes are read back

Reading undoes compiling: what the renderer reads from the text of an accepted scene is that scene,
if and only if the scene has no empty net (`read_text_iff`).
-/

namespace RayScene

theorem Scene.compile_ok {trig : Trig} {s : Scene} {w : Wire} (h : s.compile trig = .ok w) :
    s.objects.length ≤ maxObjects ∧ s.lights.length = requiredLights ∧
      ∃ nets camera, Net.resolve s = .ok nets ∧ Camera.position trig s = .ok camera ∧
        w = Wire.ofScene s camera
          (Net.complete (nets.map fun net => net.map Int.ofNat) s.objects.length) := by
  unfold compile brokenPrecondition? at h
  by_cases few : s.objects.length ≤ maxObjects
  · rw [if_neg (not_lt.mpr few)] at h
    by_cases one : s.lights.length = requiredLights
    · rw [if_neg (not_not.mpr one)] at h
      obtain ⟨nets, resolved, h⟩ := Outcome.bind_ok h
      obtain ⟨camera, placed, h⟩ := Outcome.bind_ok h
      cases h
      exact ⟨few, one, nets, camera, Outcome.mapError_ok resolved, Outcome.mapError_ok placed, rfl⟩
    · rw [if_pos one] at h
      cases h
  · rw [if_pos (not_le.mp few)] at h
    cases h

theorem Scene.compileText_refused {trig : Trig} {s : Scene} {e : CompileError}
    (refused : s.compile trig = .error e) : s.compileText trig = .error e := by
  rw [compileText, refused]
  rfl

theorem Scene.compileText_of_compile {trig : Trig} {s : Scene} {w : Wire}
    (h : s.compile trig = .ok w) :
    s.compileText trig = match w.text? with
      | some text => .ok text
      | none => .error .unwritable := by
  rw [compileText, h]
  rfl

theorem Scene.compileText_ok_iff {trig : Trig} {s : Scene} {text : String} :
    s.compileText trig = .ok text ↔ ∃ w, s.compile trig = .ok w ∧ w.text? = some text := by
  cases compiled : s.compile trig with
  | error e =>
    rw [compileText_refused compiled]
    exact iff_of_false nofun nofun
  | ok w =>
    rw [compileText_of_compile compiled]
    simp only [Except.ok.injEq, exists_eq_left']
    cases w.text? <;> simp

theorem Scene.text?_of_check {trig : Trig} {v : Json} {s : Scene} {w : Wire}
    (accepted : Scene.check v = .ok s) (compiled : s.compile trig = .ok w) :
    w.text? = some w.spelled := by
  obtain ⟨_, _, _, _, _, _, rfl⟩ := Scene.compile_ok compiled
  exact Wire.text?_ofScene (Scene.check_gives accepted) _ _

namespace Wire

theorem sentinel_notMem_complete {nets : List (List Nat)} {count : Nat} {net : List ℤ}
    (member : net ∈ Net.complete (nets.map fun net => net.map Int.ofNat) count) :
    sentinel ∉ net := by
  intro inner
  exact absurd (Net.nonneg_of_mem_complete member inner) (by decide)

theorem nil_mem_compiled {s : Scene} {nets : List (List Nat)} (h : Net.resolve s = .ok nets)
    (count : Nat) :
    [] ∈ Net.complete (nets.map fun net => net.map Int.ofNat) count ↔ [] ∈ s.nets := by
  rw [Net.nil_mem_complete, ← Net.nil_mem_resolve h]
  simp

/-- The text of an accepted scene is read back as the camera position, the angles, the light, the
objects with their defaults, the complete nets and the group of all nets if and only if the author
left no net empty. -/
theorem read_text_iff {trig : Trig} {v : Json} {s : Scene} {w : Wire}
    (accepted : Scene.check v = .ok s) (compiled : s.compile trig = .ok w) :
    ∃ text camera nets light, s.compileText trig = .ok text ∧ w.text? = some text ∧
      Camera.position trig s = .ok camera ∧ Net.resolve s = .ok nets ∧ s.lights = [light] ∧
      (read text = some (Reading.ofScene s camera
          (Net.complete (nets.map fun net => net.map Int.ofNat) s.objects.length)) ↔
        ∀ net ∈ s.nets, net ≠ []) := by
  have written := Scene.text?_of_check accepted compiled
  have exported := Scene.compileText_ok_iff.mpr ⟨w, compiled, written⟩
  obtain ⟨_, one, nets, camera, resolved, placed, rfl⟩ := Scene.compile_ok compiled
  obtain ⟨light, single⟩ := List.length_eq_one_iff.mp one
  refine ⟨_, camera, nets, light, exported, written, placed, resolved, single, ?_⟩
  rw [read_ofScene (Scene.check_gives accepted) camera fun net => sentinel_notMem_complete]
  have empty := nil_mem_compiled resolved s.objects.length
  constructor
  · intro back net member isEmpty
    rw [if_pos (empty.mpr (isEmpty ▸ member))] at back
    cases back
  · intro full
    rw [if_neg fun member => full [] (empty.mp member) rfl]

def levelTrig : Trig := ⟨fun _ => 0, fun _ => 1⟩

theorem read_text_pillar :
    ∃ w text camera, Scene.check Example.pillar.scene.toJson = .ok Example.pillar.scene ∧
      Example.pillar.scene.compile levelTrig = .ok w ∧ w.text? = some text ∧
      read text = some (Reading.ofScene Example.pillar.scene camera [[0, 1]]) := by
  have accepted : Scene.check Example.pillar.scene.toJson = .ok Example.pillar.scene := by
    decide +kernel
  obtain ⟨w, compiled⟩ : ∃ w, Example.pillar.scene.compile levelTrig = .ok w := ⟨_, rfl⟩
  obtain ⟨text, camera, nets, light, _, written, _, resolved, _, back⟩ :=
    read_text_iff accepted compiled
  have same : nets = [[0, 1]] := by
    have indices : Net.resolve Example.pillar.scene = .ok [[0, 1]] := by decide +kernel
    rw [indices] at resolved
    exact (Except.ok.inj resolved).symm
  refine ⟨w, text, camera, accepted, compiled, written, ?_⟩
  rw [back.mpr (by decide +kernel), same]
  congr 2

end Wire

end RayScene
