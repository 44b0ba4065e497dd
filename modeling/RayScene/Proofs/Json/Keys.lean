import Mathlib.Data.List.Nodup
import RayScene.Json.Basic

/-!
# Keys of objects

A text may repeat a key. The value with each key once (`Json.once`) has the same fields by key
(`Fields.get?_fieldsOnce`), and a value without repeated keys is left as it is
(`Json.once_eq_self`).
-/

namespace RayScene

mutual

def Json.HasDistinctKeys : Json → Prop
  | .arr vs => itemsHaveDistinctKeys vs
  | .obj fields => (Fields.keys fields).Nodup ∧ fieldsHaveDistinctKeys fields
  | _ => True

def Json.itemsHaveDistinctKeys : List Json → Prop
  | [] => True
  | v :: rest => v.HasDistinctKeys ∧ Json.itemsHaveDistinctKeys rest

def Json.fieldsHaveDistinctKeys : Fields → Prop
  | [] => True
  | (_, v) :: rest => v.HasDistinctKeys ∧ Json.fieldsHaveDistinctKeys rest

end

namespace Json

theorem HasDistinctKeys.getElem? {vs : List Json} (h : HasDistinctKeys (.arr vs)) {i : ℕ} {v : Json}
    (there : vs[i]? = some v) : v.HasDistinctKeys := by
  unfold HasDistinctKeys at h
  induction vs generalizing i with
  | nil => cases there
  | cons u rest ih =>
    obtain ⟨first, others⟩ := h
    cases i with
    | zero =>
      cases there
      exact first
    | succ i => exact ih there others

theorem HasDistinctKeys.get? {fields : Fields} (h : HasDistinctKeys (.obj fields))
    {key : LooseText} {v : Json} (there : Fields.get? fields key = some v) : v.HasDistinctKeys := by
  unfold HasDistinctKeys at h
  replace h := h.2
  induction fields with
  | nil => cases there
  | cons field rest ih =>
    obtain ⟨k, u⟩ := field
    obtain ⟨first, others⟩ := h
    unfold Fields.get? at there
    split at there
    · cases there
      exact first
    · exact ih there others

theorem HasDistinctKeys.keys {fields : Fields} (h : HasDistinctKeys (.obj fields)) :
    (Fields.keys fields).Nodup := by
  unfold HasDistinctKeys at h
  exact h.1

end Json

namespace Fields

open Json

theorem get?_filter_ne {k key : LooseText} (other : k ≠ key) (fields : Fields) :
    Fields.get? (fields.filter fun field => field.1 ≠ k) key = Fields.get? fields key := by
  induction fields with
  | nil => rfl
  | cons field rest ih =>
    obtain ⟨k', v⟩ := field
    by_cases same : k' = k
    · rw [List.filter_cons_of_neg (by simpa using same), ih, Fields.get?, if_neg (same ▸ other)]
    · rw [List.filter_cons_of_pos (by simpa using same), Fields.get?, Fields.get?, ih]

theorem get?_fieldsOnce (fields : Fields) (key : LooseText) :
    Fields.get? (fieldsOnce fields) key = (Fields.get? fields key).map once := by
  induction fields with
  | nil => rfl
  | cons field rest ih =>
    obtain ⟨k, v⟩ := field
    rw [fieldsOnce, Fields.get?, Fields.get?]
    by_cases same : k = key
    · rw [if_pos same, if_pos same, Option.map_some]
    · rw [if_neg same, if_neg same, get?_filter_ne same, ih]

theorem mem_keys_fieldsOnce {fields : Fields} {key : LooseText} :
    key ∈ Fields.keys (fieldsOnce fields) ↔ key ∈ Fields.keys fields := by
  induction fields with
  | nil => rfl
  | cons field rest ih =>
    obtain ⟨k, v⟩ := field
    have others : key ∈ Fields.keys ((fieldsOnce rest).filter fun field => field.1 ≠ k) ↔
        key ≠ k ∧ key ∈ Fields.keys rest := by
      rw [← ih]
      simp only [Fields.keys, List.mem_map, List.mem_filter, decide_eq_true_iff]
      constructor
      · rintro ⟨field, ⟨member, other⟩, rfl⟩
        exact ⟨other, field, member, rfl⟩
      · rintro ⟨other, field, member, rfl⟩
        exact ⟨field, ⟨member, other⟩, rfl⟩
    show key ∈ k :: Fields.keys _ ↔ key ∈ k :: Fields.keys rest
    rw [List.mem_cons, others, List.mem_cons]
    by_cases same : key = k
    · simp [same]
    · simp [same]

theorem keys_fieldsOnce_nodup (fields : Fields) : (Fields.keys (fieldsOnce fields)).Nodup := by
  induction fields with
  | nil => exact List.nodup_nil
  | cons field rest ih =>
    obtain ⟨k, v⟩ := field
    refine List.nodup_cons.mpr ⟨fun again => ?_, ?_⟩
    · obtain ⟨field, member, same⟩ := List.mem_map.mp again
      exact of_decide_eq_true (List.mem_filter.mp member).2 same
    · exact ih.sublist (List.filter_sublist.map _)

end Fields

namespace Json

mutual

theorem once_eq_self : ∀ {v : Json}, v.HasDistinctKeys → v.once = v
  | null, _ | bool _, _ | int _, _ | float _, _ | str _, _ => rfl
  | arr items, distinct => by
    rw [once, itemsOnce_eq_self (by simpa only [HasDistinctKeys] using distinct)]
  | obj fields, distinct => by
    rw [HasDistinctKeys] at distinct
    rw [once, fieldsOnce_eq_self distinct.1 distinct.2]

theorem itemsOnce_eq_self : ∀ {items : List Json}, itemsHaveDistinctKeys items →
    itemsOnce items = items
  | [], _ => rfl
  | v :: rest, distinct => by
    rw [itemsHaveDistinctKeys] at distinct
    rw [itemsOnce, once_eq_self distinct.1, itemsOnce_eq_self distinct.2]

theorem fieldsOnce_eq_self : ∀ {fields : Fields}, (Fields.keys fields).Nodup →
    fieldsHaveDistinctKeys fields → fieldsOnce fields = fields
  | [], _, _ => rfl
  | (k, v) :: rest, nodup, distinct => by
    rw [fieldsHaveDistinctKeys] at distinct
    obtain ⟨fresh, nodup⟩ := List.nodup_cons.mp nodup
    have others : rest.filter (fun field => field.1 ≠ k) = rest := by
      refine List.filter_eq_self.mpr fun field member => decide_eq_true fun same => fresh ?_
      exact List.mem_map.mpr ⟨field, member, same⟩
    rw [fieldsOnce, once_eq_self distinct.1, fieldsOnce_eq_self nodup distinct.2, others]

end

theorem fieldsHaveDistinctKeys_iff {fields : Fields} :
    fieldsHaveDistinctKeys fields ↔ ∀ field ∈ fields, field.2.HasDistinctKeys := by
  induction fields with
  | nil => exact ⟨fun _ => nofun, fun _ => trivial⟩
  | cons field rest ih => rw [fieldsHaveDistinctKeys, ih, List.forall_mem_cons]

mutual

theorem once_hasDistinctKeys : ∀ v : Json, v.once.HasDistinctKeys
  | null | bool _ | int _ | float _ | str _ => trivial
  | arr items => by
    rw [once, HasDistinctKeys]
    exact itemsOnce_haveDistinctKeys items
  | obj fields => by
    rw [once, HasDistinctKeys]
    exact ⟨Fields.keys_fieldsOnce_nodup fields, fieldsOnce_haveDistinctKeys fields⟩

theorem itemsOnce_haveDistinctKeys : ∀ items : List Json, itemsHaveDistinctKeys (itemsOnce items)
  | [] => trivial
  | v :: rest => by
    rw [itemsOnce, itemsHaveDistinctKeys]
    exact ⟨once_hasDistinctKeys v, itemsOnce_haveDistinctKeys rest⟩

theorem fieldsOnce_haveDistinctKeys : ∀ fields : Fields,
    fieldsHaveDistinctKeys (fieldsOnce fields)
  | [] => trivial
  | (k, v) :: rest => by
    have others := fieldsHaveDistinctKeys_iff.mp (fieldsOnce_haveDistinctKeys rest)
    rw [fieldsOnce, fieldsHaveDistinctKeys]
    exact ⟨once_hasDistinctKeys v, fieldsHaveDistinctKeys_iff.mpr fun field member =>
      others field (List.mem_of_mem_filter member)⟩

end

theorem once_once (v : Json) : v.once.once = v.once := once_eq_self (once_hasDistinctKeys v)

end Json

end RayScene
