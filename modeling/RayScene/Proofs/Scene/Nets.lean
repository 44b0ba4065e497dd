import RayScene.Proofs.Scene.Resolution

/-!
# The nets of a scene

Resolving keeps the shape of the nets: an empty net stays empty. Completing adds nets of one object
each and leaves no object out (`exists_mem_complete`).
-/

namespace RayScene.Net

theorem nil_mem_resolve {s : Scene} {nets : List (List Nat)} (h : resolve s = .ok nets) :
    [] ∈ nets ↔ [] ∈ s.nets := by
  have matched := resolve_ok_iff.mp h
  constructor
  · intro member
    obtain ⟨net, given, related⟩ := exists_matched (List.Forall₂.flip matched) [] member
    exact List.forall₂_nil_right_iff.mp related ▸ given
  · intro member
    obtain ⟨indices, given, related⟩ := exists_matched matched [] member
    exact List.forall₂_nil_left_iff.mp related ▸ given

theorem mem_uncovered {nets : List (List Int)} {count i : Nat} :
    i ∈ uncovered nets count ↔ i < count ∧ ∀ net ∈ nets, (i : Int) ∉ net := by
  simp [uncovered]

theorem ascending_uncovered (nets : List (List Int)) (count : Nat) :
    (uncovered nets count).Pairwise (· < ·) :=
  List.pairwise_lt_range.filter _

theorem nil_mem_complete {nets : List (List Int)} {count : Nat} :
    [] ∈ complete nets count ↔ [] ∈ nets := by
  rw [complete, List.mem_append]
  constructor
  · rintro (member | member)
    · exact member
    · obtain ⟨i, _, same⟩ := List.mem_map.mp member
      cases same
  · exact Or.inl

/-- An object is in one of the nets, if not in one of the given nets then in its own. -/
theorem exists_mem_complete (nets : List (List Int)) {count i : Nat} (h : i < count) :
    ∃ net ∈ complete nets count, (i : Int) ∈ net := by
  by_cases given : (i : Int) ∈ nets.flatten
  · obtain ⟨net, member, inner⟩ := List.mem_flatten.mp given
    exact ⟨net, List.mem_append_left _ member, inner⟩
  · refine ⟨[Int.ofNat i], List.mem_append_right _ (List.mem_map.mpr ⟨i, ?_, rfl⟩),
      List.mem_singleton.mpr rfl⟩
    refine List.mem_filter.mpr ⟨List.mem_range.mpr h, ?_⟩
    rw [Bool.not_eq_true', ← Bool.not_eq_true, List.contains_iff_mem]
    exact given

theorem nonneg_of_mem_complete {nets : List (List Nat)} {count : Nat} {net : List Int} {i : Int}
    (member : net ∈ complete (nets.map fun net => net.map Int.ofNat) count) (inner : i ∈ net) :
    0 ≤ i := by
  rcases List.mem_append.mp member with member | member
  · obtain ⟨indices, _, rfl⟩ := List.mem_map.mp member
    obtain ⟨k, _, rfl⟩ := List.mem_map.mp inner
    exact Int.natCast_nonneg k
  · obtain ⟨k, _, rfl⟩ := List.mem_map.mp member
    rw [List.mem_singleton.mp inner]
    exact Int.natCast_nonneg k

end RayScene.Net
