import RayScene.Proofs.Scene.Refusals
import RayScene.Proofs.Scene.Written

/-!
# Complete nets

Completing adds a net of its own for exactly those objects that no net lists, in ascending order,
and a second time adds nothing. A scene that names its complete nets is the same scene for the
renderer (`Net.completion_stable`).
-/

namespace RayScene

namespace Net

theorem uncovered_complete (nets : List (List ℤ)) (count : Nat) :
    uncovered (complete nets count) count = [] := by
  refine List.eq_nil_iff_forall_not_mem.mpr fun i alone => ?_
  obtain ⟨within, outside⟩ := mem_uncovered.mp alone
  obtain ⟨net, member, inner⟩ := exists_mem_complete nets within
  exact outside net member inner

theorem complete_complete (nets : List (List ℤ)) (count : Nat) :
    complete (complete nets count) count = complete nets count := by
  rw [complete, uncovered_complete, List.map_nil, List.append_nil]

/-- The nets of natural numbers, and after them a net for each object that is in none of them. -/
def groups (nets : List (List Nat)) (count : Nat) : List (List Nat) :=
  nets ++ (uncovered (nets.map fun net => net.map Int.ofNat) count).map fun i => [i]

theorem complete_ofNat (nets : List (List Nat)) (count : Nat) :
    complete (nets.map fun net => net.map Int.ofNat) count =
      (groups nets count).map fun net => net.map Int.ofNat := by
  simp [complete, groups, Function.comp_def]

end Net

namespace Scene

variable {s : Scene}

def nameAt (s : Scene) (i : ℤ) : LooseText :=
  LooseText.proper ((s.objects.map SceneObject.name).getD i.toNat "")

/-- The scene with nets that name the objects at these places. -/
def withNets (s : Scene) (nets : List (List ℤ)) : Scene :=
  { s with nets := nets.map fun net => net.map s.nameAt }

theorem lt_of_mem_groups {nets : List (List Nat)} (resolved : Net.resolve s = .ok nets) :
    ∀ net ∈ Net.groups nets s.objects.length, ∀ i ∈ net, i < s.objects.length := by
  intro net member i inner
  rcases List.mem_append.mp member with given | alone
  · exact Net.within_of_resolve resolved net given i inner
  · obtain ⟨k, outside, rfl⟩ := List.mem_map.mp alone
    rw [List.mem_singleton.mp inner]
    exact (Net.mem_uncovered.mp outside).1

theorem resolve_withNets (distinct : (s.objects.map SceneObject.name).Nodup)
    {nets : List (List Nat)} (inside : ∀ net ∈ nets, ∀ i ∈ net, i < s.objects.length) :
    Net.resolve (s.withNets (nets.map fun net => net.map Int.ofNat)) = .ok nets := by
  have renamed : (s.withNets (nets.map fun net => net.map Int.ofNat)).nets =
      nets.map fun net => net.map fun i => s.nameAt (Int.ofNat i) := by
    simp [withNets, Function.comp_def]
  rw [Net.resolve_ok_iff, renamed, List.forall₂_map_left_iff, List.forall₂_same]
  intro net member
  rw [List.forall₂_map_left_iff, List.forall₂_same]
  intro i inner
  have within := inside net member i inner
  have named : LooseText.proper s.objects[i].name = s.nameAt i := by simp [nameAt, within]
  have isLast := (isLast_iff_of_distinct distinct).mpr ⟨within, named⟩
  exact ⟨isLast.within, isLast.named, isLast.last⟩

theorem compile_groups {trig : Trig} {w : Wire} (compiled : s.compile trig = .ok w) :
    ∃ nets, Net.resolve s = .ok nets ∧
      w.nets = (Net.groups nets s.objects.length).map fun net => net.map Int.ofNat := by
  obtain ⟨_, _, nets, camera, resolved, _, rfl⟩ := compile_ok compiled
  exact ⟨nets, resolved, Net.complete_ofNat nets s.objects.length⟩

theorem compile_withNets {trig : Trig} {w : Wire}
    (distinct : (s.objects.map SceneObject.name).Nodup) (compiled : s.compile trig = .ok w) :
    (s.withNets w.nets).compile trig = .ok w := by
  obtain ⟨few, one, nets, camera, resolved, placed, rfl⟩ := compile_ok compiled
  have unbroken := brokenPrecondition?_eq_none_iff.mpr ⟨few, one⟩
  have resolvedAgain := resolve_withNets distinct (lt_of_mem_groups resolved)
  rw [← Net.complete_ofNat] at resolvedAgain
  have again := compile_resolved (s := s.withNets _) unbroken resolvedAgain placed
  rw [← Net.complete_ofNat] at again
  have settled := Net.complete_complete (nets.map fun net => net.map Int.ofNat) s.objects.length
  exact again.trans (congrArg (fun nets => Except.ok (Wire.ofScene s camera nets)) settled)

theorem form_toJson_withNets (spelled : Scene.form s.toJson s) (nets : List (List ℤ)) :
    Scene.form (s.withNets nets).toJson (s.withNets nets) := by
  obtain ⟨_, ⟨⟩, known, ⟨_, ⟨⟩, position⟩, ⟨_, ⟨⟩, angles⟩, ⟨_, ⟨⟩, lights⟩, ⟨_, ⟨⟩, objects⟩, _⟩ :=
    spelled
  refine ⟨_, rfl, known, ⟨_, rfl, position⟩, ⟨_, rfl, angles⟩, ⟨_, rfl, lights⟩, ⟨_, rfl, objects⟩,
    ⟨_, rfl, _, rfl, ?_⟩⟩
  rw [List.forall₂_map_left_iff, List.forall₂_same]
  refine fun net _ => ⟨_, rfl, ?_⟩
  rw [List.forall₂_map_left_iff, List.forall₂_same]
  exact fun _ _ => rfl

theorem check_withNets {v : Json} {trig : Trig} {w : Wire} (accepted : Scene.check v = .ok s)
    (compiled : s.compile trig = .ok w) (nets : List (List ℤ)) :
    Scene.check (s.withNets nets).toJson = .ok (s.withNets nets) := by
  have spelled := ((Scene.check_decides v).ok_iff s).mp accepted
  have written := Scene.written spelled (isStorable_of_compile compiled)
  exact ((Scene.check_decides _).ok_iff _).mpr (form_toJson_withNets written.spells nets)

theorem isStorable_withNets (nets : List (List ℤ)) : (s.withNets nets).isStorable = true := by
  simp [isStorable, withNets, nameAt, LooseText.isProper, LooseText.proper?]

end Scene

/-- Completing nets appends a net of its own for each object below the count that no net lists, in
ascending order, so that every object is in a net, and completing the result changes nothing. An
accepted scene that compiles can name its complete nets instead: it is then accepted, as a value and
as a text, compiles to the same wire and gets no further net. -/
theorem Net.completion_stable :
    (∀ (nets : List (List ℤ)) (count : Nat),
      (∃ alone : List Nat, complete nets count = nets ++ alone.map (fun i : Nat => [(i : ℤ)]) ∧
        alone.Pairwise (· < ·) ∧ ∀ i, i ∈ alone ↔ i < count ∧ ∀ net ∈ nets, (i : ℤ) ∉ net) ∧
      (∀ i < count, ∃ net ∈ complete nets count, (i : ℤ) ∈ net) ∧
      complete (complete nets count) count = complete nets count) ∧
    ∀ {v : Json} {s : Scene} {trig : Trig} {w : Wire}, Scene.check v = .ok s →
      s.compile trig = .ok w →
        (∀ net ∈ w.nets, ∀ i ∈ net, 0 ≤ i ∧ i < s.objects.length) ∧
        Scene.check (s.withNets w.nets).toJson = .ok (s.withNets w.nets) ∧
        (∀ e, Scene.ofText e (s.withNets w.nets).source = .ok (s.withNets w.nets)) ∧
        (s.withNets w.nets).compile trig = .ok w ∧
        (∃ text, s.compileText trig = .ok text ∧
          (s.withNets w.nets).compileText trig = .ok text) ∧
        ∃ nets, resolve (s.withNets w.nets) = .ok nets ∧
          nets.map (fun net => net.map Int.ofNat) = w.nets ∧
          uncovered w.nets s.objects.length = [] := by
  constructor
  · intro nets count
    exact ⟨⟨uncovered nets count, rfl, ascending_uncovered nets count, fun i => mem_uncovered⟩,
      fun i within => exists_mem_complete nets within, complete_complete nets count⟩
  · intro v s trig w accepted compiled
    obtain ⟨nets, resolved, shape⟩ := Scene.compile_groups compiled
    have distinct := Scene.check_distinct accepted
    have checked := Scene.check_withNets accepted compiled w.nets
    have again := Scene.compile_withNets distinct compiled
    have written := Scene.text?_of_check accepted compiled
    refine ⟨?_, checked, fun e => Scene.ofText_source e checked (Scene.isStorable_withNets _),
      again, ⟨_, Scene.compileText_ok_iff.mpr ⟨w, compiled, written⟩,
        Scene.compileText_ok_iff.mpr ⟨w, again, written⟩⟩, ?_⟩
    · intro net member i inner
      rw [shape] at member
      obtain ⟨group, inGroups, rfl⟩ := List.mem_map.mp member
      obtain ⟨k, inGroup, rfl⟩ := List.mem_map.mp inner
      exact ⟨Int.natCast_nonneg k,
        Int.ofNat_lt.mpr (Scene.lt_of_mem_groups resolved group inGroups k inGroup)⟩
    · refine ⟨_, ?_, shape.symm, ?_⟩
      · rw [shape]
        exact Scene.resolve_withNets distinct (Scene.lt_of_mem_groups resolved)
      · rw [shape, ← complete_ofNat, uncovered_complete]

/-- The bowl lists three of its four objects; the table gets a net of its own. -/
theorem Net.completion_stable_bowl :
    ∃ w, Scene.check Example.bowl.scene.toJson = .ok Example.bowl.scene ∧
      Example.bowl.scene.compile Wire.levelTrig = .ok w ∧
      (Example.bowl.scene.withNets w.nets).nets =
        [[.proper "outer", .proper "inner", .proper "lid"], [.proper "table"]] ∧
      (Example.bowl.scene.withNets w.nets).compile Wire.levelTrig = .ok w := by
  have accepted : Scene.check Example.bowl.scene.toJson = .ok Example.bowl.scene := by
    decide +kernel
  obtain ⟨w, compiled⟩ : ∃ w, Example.bowl.scene.compile Wire.levelTrig = .ok w := ⟨_, rfl⟩
  obtain ⟨_, _, _, again, _⟩ := completion_stable.2 accepted compiled
  obtain ⟨nets, resolved, shape⟩ := Scene.compile_groups compiled
  have same : Net.resolve Example.bowl.scene = .ok [[0, 1, 2]] := by decide
  cases same.symm.trans resolved
  refine ⟨w, accepted, compiled, ?_, again⟩
  rw [shape]
  decide

end RayScene
