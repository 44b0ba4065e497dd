import Mathlib.Data.List.Forall2
import RayScene.Proofs.Outcome
import RayScene.Scene.Unchecked

/-!
# Names and indices

What resolving the nets of a scene gives. Every name becomes the last place that has it
(`Net.resolve_ok_iff`), and if some name has no place, the first such name is reported
(`Net.resolve_error_iff`). The scene may repeat names.
-/

namespace RayScene

namespace Scene

def Names (s : Scene) (name : LooseText) : Prop := ∃ o ∈ s.objects, LooseText.proper o.name = name

instance (s : Scene) (name : LooseText) : Decidable (s.Names name) :=
  inferInstanceAs (Decidable (∃ o ∈ s.objects, LooseText.proper o.name = name))

structure IsLast (s : Scene) (name : LooseText) (i : Nat) : Prop where
  within : i < s.objects.length
  named : LooseText.proper s.objects[i].name = name
  last : ∀ j, (h : j < s.objects.length) → LooseText.proper s.objects[j].name = name → j ≤ i

/-- The name is the first in the nets that no object has: all names in earlier nets and all that
stand before it in its own net are names of objects. -/
def IsFirstUnknown (s : Scene) (u : Net.Unresolved) : Prop :=
  ∃ earlier known others later, s.nets = earlier ++ (known ++ u.name :: others) :: later ∧
    u.net = earlier.length ∧ (∀ net ∈ earlier, ∀ name ∈ net, s.Names name) ∧
    (∀ name ∈ known, s.Names name) ∧ ¬ s.Names u.name

theorem names_iff_mem {s : Scene} {name : LooseText} :
    s.Names name ↔ name ∈ (s.objects.map SceneObject.name).map LooseText.proper := by
  simp [Names]

theorem IsLast.names {s : Scene} {name : LooseText} {i : Nat} (h : s.IsLast name i) :
    s.Names name :=
  ⟨_, List.getElem_mem h.within, h.named⟩

theorem place_unique {s : Scene} (distinct : (s.objects.map SceneObject.name).Nodup) {i j : Nat}
    (hi : i < s.objects.length) (hj : j < s.objects.length)
    (same : s.objects[i].name = s.objects[j].name) : i = j := by
  have inNames : i < (s.objects.map SceneObject.name).length := by rwa [List.length_map]
  have inNames' : j < (s.objects.map SceneObject.name).length := by rwa [List.length_map]
  have twice : (s.objects.map SceneObject.name)[i] = (s.objects.map SceneObject.name)[j] := by
    simpa using same
  exact (List.getElem_inj distinct).mp twice

theorem isLast_iff_of_distinct {s : Scene} (distinct : (s.objects.map SceneObject.name).Nodup)
    {name : LooseText} {i : Nat} :
    s.IsLast name i ↔ ∃ h : i < s.objects.length, LooseText.proper s.objects[i].name = name := by
  refine ⟨fun h => ⟨h.within, h.named⟩, fun ⟨within, named⟩ => ⟨within, named, fun j h same => ?_⟩⟩
  exact Nat.le_of_eq (place_unique distinct h within (LooseText.proper.inj (same.trans named.symm)))

theorem IsFirstUnknown.inNet {s : Scene} {u : Net.Unresolved} (h : s.IsFirstUnknown u) :
    ∃ net ∈ s.nets, u.name ∈ net ∧ ¬ s.Names u.name := by
  obtain ⟨earlier, known, others, later, split, _, _, _, unknown⟩ := h
  exact ⟨known ++ u.name :: others, by simp [split], by simp, unknown⟩

end Scene

namespace Net

theorem exists_matched {α β : Type} {R : α → β → Prop} {as : List α} {bs : List β}
    (h : List.Forall₂ R as bs) : ∀ a ∈ as, ∃ b ∈ bs, R a b := by
  induction h with
  | nil => simp
  | cons related _ ih =>
    refine List.forall_mem_cons.mpr ⟨⟨_, List.mem_cons_self, related⟩, fun a member => ?_⟩
    obtain ⟨b, inner, related⟩ := ih a member
    exact ⟨b, List.mem_cons_of_mem _ inner, related⟩

variable {names : List String} {name : LooseText}

theorem lastIndex?_eq_none_iff :
    lastIndex? name names = none ↔ name ∉ names.map LooseText.proper := by
  induction names with
  | nil => simp [lastIndex?]
  | cons n rest ih =>
    unfold lastIndex?
    cases later : lastIndex? name rest with
    | some i =>
      have member : name ∈ rest.map LooseText.proper := by
        by_contra absent
        rw [ih.mpr absent] at later
        cases later
      simp [List.map_cons, List.mem_cons_of_mem _ member]
    | none =>
      have absent := ih.mp later
      by_cases same : name = n <;> simp [same] at absent ⊢
      exact absent

theorem lastIndex?_eq_some_iff {i : Nat} :
    lastIndex? name names = some i ↔ ∃ h : i < names.length, LooseText.proper names[i] = name ∧
      ∀ j, (h : j < names.length) → LooseText.proper names[j] = name → j ≤ i := by
  induction names generalizing i with
  | nil => simp [lastIndex?]
  | cons n rest ih =>
    unfold lastIndex?
    cases later : lastIndex? name rest with
    | some k =>
      obtain ⟨within, named, last⟩ := ih.mp later
      rw [Option.some.injEq]
      constructor
      · rintro rfl
        refine ⟨Nat.succ_lt_succ within, named, fun j h same => ?_⟩
        cases j with
        | zero => omega
        | succ j => exact Nat.succ_le_succ (last j (Nat.lt_of_succ_lt_succ h) same)
      · rintro ⟨h, same, lastOne⟩
        -- The place of the rest is not behind `i`, and `i` is then a place of the rest itself.
        have after := lastOne (k + 1) (Nat.succ_lt_succ within) named
        cases i with
        | zero => omega
        | succ i =>
          have before := last i (Nat.lt_of_succ_lt_succ h) same
          omega
    | none =>
      have absent := lastIndex?_eq_none_iff.mp later
      have only : ∀ j, (h : j < (n :: rest).length) →
          LooseText.proper (n :: rest)[j] = name → j = 0 := by
        intro j h same
        cases j with
        | zero => rfl
        | succ j =>
          have member := List.mem_map_of_mem (f := LooseText.proper)
            (List.getElem_mem (Nat.lt_of_succ_lt_succ h))
          exact absurd (same ▸ member) absent
      by_cases same : name = n
      · rw [if_pos same, Option.some.injEq]
        constructor
        · rintro rfl
          exact ⟨Nat.zero_lt_succ _, same.symm, fun j h named => Nat.le_of_eq (only j h named)⟩
        · rintro ⟨h, named, _⟩
          exact (only i h named).symm
      · rw [if_neg same]
        refine ⟨nofun, ?_⟩
        rintro ⟨h, named, _⟩
        obtain rfl := only i h named
        exact absurd named.symm same

theorem mem_of_lastIndex? {i : Nat} (h : lastIndex? name names = some i) :
    name ∈ names.map LooseText.proper := by
  by_contra absent
  rw [lastIndex?_eq_none_iff.mpr absent] at h
  cases h

theorem lastIndex?_isLast {s : Scene} {i : Nat} :
    lastIndex? name (s.objects.map SceneObject.name) = some i ↔ s.IsLast name i := by
  rw [lastIndex?_eq_some_iff]
  simp only [List.length_map, List.getElem_map]
  exact ⟨fun ⟨within, named, last⟩ => ⟨within, named, last⟩,
    fun ⟨within, named, last⟩ => ⟨within, named, last⟩⟩

/-! ### One net -/

theorem resolveNet_ok_iff {net : Nat} {members : List LooseText} {indices : List Nat} :
    resolveNet names net members = .ok indices ↔
      List.Forall₂ (fun name i => lastIndex? name names = some i) members indices := by
  induction members generalizing indices with
  | nil =>
    rw [List.forall₂_nil_left_iff]
    exact ⟨fun h => (Except.ok.inj h).symm, fun h => congrArg _ h.symm⟩
  | cons name rest ih =>
    rw [List.forall₂_cons_left_iff]
    unfold resolveNet
    cases found : lastIndex? name names with
    | none => simp
    | some i =>
      constructor
      · intro h
        obtain ⟨others, resolved, rfl⟩ := Outcome.map_ok h
        exact ⟨i, others, rfl, ih.mp resolved, rfl⟩
      · rintro ⟨j, others, same, matched, rfl⟩
        cases same
        simp only [ih.mpr matched]
        rfl

theorem known_of_resolveNet {net : Nat} {members : List LooseText} {indices : List Nat}
    (h : resolveNet names net members = .ok indices) :
    ∀ name ∈ members, name ∈ names.map LooseText.proper := by
  intro name member
  obtain ⟨i, _, found⟩ := exists_matched (resolveNet_ok_iff.mp h) name member
  exact mem_of_lastIndex? found

theorem resolveNet_error_iff {net : Nat} {members : List LooseText} {u : Unresolved} :
    resolveNet names net members = .error u ↔ u.net = net ∧
      ∃ known others, members = known ++ u.name :: others ∧
        (∀ name ∈ known, name ∈ names.map LooseText.proper) ∧
        u.name ∉ names.map LooseText.proper := by
  induction members with
  | nil =>
    refine ⟨nofun, ?_⟩
    rintro ⟨_, known, others, split, _⟩
    simp at split
  | cons name rest ih =>
    unfold resolveNet
    cases found : lastIndex? name names with
    | none =>
      have unknown := lastIndex?_eq_none_iff.mp found
      constructor
      · rintro ⟨⟩
        exact ⟨rfl, [], rest, rfl, List.forall_mem_nil _, unknown⟩
      · rintro ⟨same, known, others, split, allKnown, _⟩
        cases known with
        | nil =>
          obtain ⟨rfl, rfl⟩ := List.cons.inj split
          rw [← same]
        | cons first known =>
          obtain ⟨rfl, _⟩ := List.cons.inj split
          exact absurd (allKnown _ List.mem_cons_self) unknown
    | some i =>
      have isKnown := mem_of_lastIndex? found
      have later : (resolveNet names net rest).map (i :: ·) = .error u ↔
          resolveNet names net rest = .error u := by
        cases resolveNet names net rest <;> simp [Except.map]
      rw [later, ih]
      refine and_congr_right fun _ => ?_
      constructor
      · rintro ⟨known, others, rfl, allKnown, unknown⟩
        exact ⟨name :: known, others, rfl, List.forall_mem_cons.mpr ⟨isKnown, allKnown⟩, unknown⟩
      · rintro ⟨known, others, split, allKnown, unknown⟩
        cases known with
        | nil =>
          obtain ⟨rfl, _⟩ := List.cons.inj split
          exact absurd isKnown unknown
        | cons first known =>
          obtain ⟨rfl, rfl⟩ := List.cons.inj split
          exact ⟨known, others, rfl, (List.forall_mem_cons.mp allKnown).2, unknown⟩

/-! ### All nets -/

theorem resolveFrom_ok_iff {net : Nat} {nets : List (List LooseText)} {indices : List (List Nat)} :
    resolveFrom names net nets = .ok indices ↔
      List.Forall₂ (List.Forall₂ fun name i => lastIndex? name names = some i) nets indices := by
  induction nets generalizing net indices with
  | nil =>
    rw [List.forall₂_nil_left_iff]
    exact ⟨fun h => (Except.ok.inj h).symm, fun h => congrArg _ h.symm⟩
  | cons members rest ih =>
    rw [List.forall₂_cons_left_iff]
    constructor
    · intro h
      obtain ⟨first, resolved, h⟩ := Outcome.bind_ok h
      obtain ⟨others, resolvedRest, h⟩ := Outcome.bind_ok h
      exact ⟨first, others, resolveNet_ok_iff.mp resolved, ih.mp resolvedRest,
        (Except.ok.inj h).symm⟩
    · rintro ⟨first, others, resolved, resolvedRest, rfl⟩
      unfold resolveFrom
      rw [resolveNet_ok_iff.mpr resolved, ih.mpr resolvedRest]
      rfl

theorem resolveFrom_error_iff {net : Nat} {nets : List (List LooseText)} {u : Unresolved} :
    resolveFrom names net nets = .error u ↔
      ∃ earlier known others later, nets = earlier ++ (known ++ u.name :: others) :: later ∧
        u.net = net + earlier.length ∧
        (∀ net ∈ earlier, ∀ name ∈ net, name ∈ names.map LooseText.proper) ∧
        (∀ name ∈ known, name ∈ names.map LooseText.proper) ∧
        u.name ∉ names.map LooseText.proper := by
  induction nets generalizing net with
  | nil =>
    refine ⟨nofun, ?_⟩
    rintro ⟨earlier, known, others, later, split, _⟩
    simp at split
  | cons members rest ih =>
    cases resolved : resolveNet names net members with
    | error e =>
      obtain ⟨here, known, others, split, allKnown, unknown⟩ := resolveNet_error_iff.mp resolved
      have stops : resolveFrom names net (members :: rest) = .error e := by
        unfold resolveFrom
        rw [resolved]
        rfl
      rw [stops]
      constructor
      · rintro ⟨⟩
        exact ⟨[], known, others, rest, split ▸ rfl, here, List.forall_mem_nil _, allKnown, unknown⟩
      · rintro ⟨earlier, known', others', later, split', place, earlierKnown, known'Known, unknown'⟩
        cases earlier with
        | nil =>
          obtain ⟨rfl, rfl⟩ := List.cons.inj split'
          have first := resolveNet_error_iff.mpr
            ⟨place, known', others', rfl, known'Known, unknown'⟩
          exact congrArg _ (Except.error.inj (resolved.symm.trans first))
        | cons net' earlier =>
          obtain ⟨rfl, _⟩ := List.cons.inj split'
          have isKnown := earlierKnown _ List.mem_cons_self e.name (by simp [split])
          exact absurd isKnown unknown
    | ok indices =>
      have isKnown := known_of_resolveNet resolved
      have goesOn : resolveFrom names net (members :: rest) = .error u ↔
          resolveFrom names (net + 1) rest = .error u := by
        rw [resolveFrom, resolved]
        cases resolveFrom names (net + 1) rest <;> simp [bind, Except.bind, pure, Except.pure]
      rw [goesOn, ih]
      constructor
      · rintro ⟨earlier, known, others, later, rfl, place, earlierKnown, rest⟩
        refine ⟨members :: earlier, known, others, later, rfl, ?_,
          List.forall_mem_cons.mpr ⟨isKnown, earlierKnown⟩, rest⟩
        rw [place, List.length_cons]
        omega
      · rintro ⟨earlier, known, others, later, split, place, earlierKnown, allKnown, unknown⟩
        cases earlier with
        | nil =>
          obtain ⟨rfl, _⟩ := List.cons.inj split
          exact absurd (isKnown u.name (by simp)) unknown
        | cons net' earlier =>
          obtain ⟨rfl, rfl⟩ := List.cons.inj split
          rw [List.length_cons] at place
          exact ⟨earlier, known, others, later, rfl, by omega,
            (List.forall_mem_cons.mp earlierKnown).2, allKnown, unknown⟩

/-- The nets by index have the shape of the nets by name, and every index is the last place of the
name that it stands for. -/
theorem resolve_ok_iff {s : Scene} {nets : List (List Nat)} :
    resolve s = .ok nets ↔ List.Forall₂ (List.Forall₂ s.IsLast) s.nets nets := by
  simp only [resolve, resolveFrom_ok_iff, lastIndex?_isLast]

theorem within_of_resolve {s : Scene} {nets : List (List Nat)} (resolved : resolve s = .ok nets) :
    ∀ net ∈ nets, ∀ i ∈ net, i < s.objects.length := by
  intro net member i inner
  have backwards := List.Forall₂.flip (resolve_ok_iff.mp resolved)
  obtain ⟨members, _, matched⟩ := exists_matched backwards net member
  obtain ⟨name, _, isLast⟩ := exists_matched (List.Forall₂.flip matched) i inner
  exact isLast.within

theorem resolve_error_iff {s : Scene} {u : Unresolved} :
    resolve s = .error u ↔ s.IsFirstUnknown u := by
  simp only [resolve, resolveFrom_error_iff, ← Scene.names_iff_mem, Nat.zero_add,
    Scene.IsFirstUnknown]

/-- The nets have indices if and only if every name in them is that of an object. -/
theorem exists_resolve_iff {s : Scene} :
    (∃ nets, resolve s = .ok nets) ↔ ∀ net ∈ s.nets, ∀ name ∈ net, s.Names name := by
  constructor
  · rintro ⟨nets, resolved⟩ net member name inner
    obtain ⟨indices, _, matched⟩ := exists_matched (resolve_ok_iff.mp resolved) net member
    obtain ⟨i, _, isLast⟩ := exists_matched matched name inner
    exact isLast.names
  · intro allKnown
    cases resolved : resolve s with
    | ok nets => exact ⟨nets, rfl⟩
    | error u =>
      obtain ⟨net, member, inner, unknown⟩ := (resolve_error_iff.mp resolved).inNet
      exact absurd (allKnown net member u.name inner) unknown

theorem exists_firstUnknown_iff {s : Scene} :
    (∃ u, s.IsFirstUnknown u) ↔ ∃ net ∈ s.nets, ∃ name ∈ net, ¬ s.Names name := by
  constructor
  · rintro ⟨u, first⟩
    obtain ⟨net, member, inner, unknown⟩ := first.inNet
    exact ⟨net, member, u.name, inner, unknown⟩
  · rintro ⟨net, member, name, inner, unknown⟩
    cases resolved : resolve s with
    | ok nets => exact absurd (exists_resolve_iff.mp ⟨nets, resolved⟩ net member name inner) unknown
    | error u => exact ⟨u, resolve_error_iff.mp resolved⟩

theorem netsUpTo_names (nets : List (List LooseText)) :
    netsUpTo (nets.map fun net => net.map .name) = (nets, none) := by
  have oneNet (net : List LooseText) : namesUpTo (net.map .name) = (net, none) := by
    induction net with
    | nil => rfl
    | cons name rest ih => rw [List.map_cons, namesUpTo, ih]
  induction nets with
  | nil => rfl
  | cons net rest ih => simp only [List.map_cons, netsUpTo, oneNet, ih]

theorem resolveMembers_unhashable_iff {s : Scene} {nets : List (List Member)} {u : Unhashable} :
    resolveMembers s nets = .error (.inr u) ↔ (netsUpTo nets).2 = some u ∧
      ∀ net ∈ (netsUpTo nets).1, ∀ name ∈ net, s.Names name := by
  have named := @exists_resolve_iff { s with nets := (netsUpTo nets).1 }
  refine Iff.trans ?_ (and_congr_right fun _ => named)
  unfold resolveMembers
  cases resolve { s with nets := (netsUpTo nets).1 } with
  | error e => simp
  | ok indices => cases (netsUpTo nets).2 <;> simp

end Net

end RayScene
