import RayScene.Agent.Run
import RayScene.Http.Response

/-!
# Results that can be sent

A result is sent if its strings, keys apart, hold no surrogate and its values are not too deep
inside each other. What that means for a part depends on how deep it is in the result (`Json.Fits`);
a result can be sent if its text, its names and its messages can (`AgentResult.fits_toJson`).
-/

namespace RayScene

open Http (Response)

namespace LooseText

theorem isProper_iff {t : LooseText} : t.isProper = true ↔ ∃ s : String, t = s := by
  cases t with
  | proper s => exact iff_of_true rfl ⟨s, rfl⟩
  | broken before unit after =>
    refine iff_of_false Bool.false_ne_true ?_
    rintro ⟨s, same⟩
    cases same

theorem isProper_append {t u : LooseText} (ht : t.isProper = true) (hu : u.isProper = true) :
    (t ++ u).isProper = true := by
  obtain ⟨s, rfl⟩ := isProper_iff.mp ht
  obtain ⟨s', rfl⟩ := isProper_iff.mp hu
  rfl

theorem isProper_intercalate {separator : LooseText} {texts : List LooseText}
    (hs : separator.isProper = true) (h : ∀ t ∈ texts, t.isProper = true) :
    (intercalate separator texts).isProper = true := by
  induction texts with
  | nil => rfl
  | cons t rest ih =>
    obtain ⟨first, others⟩ := List.forall_mem_cons.mp h
    cases rest with
    | nil => exact first
    | cons u more => exact isProper_append (isProper_append first hs) (ih others)

end LooseText

/-- The value can be part of a result that is sent, inside as many others as the depth says. -/
structure Json.Fits (depth : Nat) (v : Json) : Prop where
  proper : v.hasProperStrings = true
  height : v.height + depth ≤ Response.maxHeight

namespace Json

variable {depth : Nat}

instance (v : Json) : Decidable (v.Fits depth) :=
  decidable_of_iff (v.hasProperStrings = true ∧ v.height + depth ≤ Response.maxHeight)
    ⟨fun h => ⟨h.1, h.2⟩, fun h => ⟨h.proper, h.height⟩⟩

/-- A value fits if what is inside fits one deeper. -/
theorem fits_around {v : Json} {inside : Nat} (outer : v.height = inside + 1) :
    Fits depth v ↔
      v.hasProperStrings = true ∧ inside + (depth + 1) ≤ Response.maxHeight := by
  constructor
  · rintro ⟨proper, height⟩
    exact ⟨proper, by omega⟩
  · rintro ⟨proper, height⟩
    exact ⟨proper, by omega⟩

theorem fits_leaf {v : Json} (leaf : v.height = 1) :
    Fits depth v ↔ v.hasProperStrings = true ∧ depth < Response.maxHeight := by
  rw [fits_around leaf, Nat.zero_add, Nat.succ_le_iff]

theorem fits_str {s : LooseText} :
    Fits depth (.str s) ↔ s.isProper = true ∧ depth < Response.maxHeight :=
  fits_leaf rfl

/-- A value beside others fits if it does, and they do. -/
theorem fits_beside {v : Json} {proper : Bool} {height : Nat} :
    ((v.hasProperStrings && proper) = true ∧
        max v.height height + depth ≤ Response.maxHeight) ↔
      Fits depth v ∧ proper = true ∧ height + depth ≤ Response.maxHeight := by
  rw [Bool.and_eq_true]
  constructor
  · rintro ⟨⟨own, others⟩, heights⟩
    exact ⟨⟨own, by omega⟩, others, by omega⟩
  · rintro ⟨⟨own, height⟩, others, heights⟩
    exact ⟨⟨own, others⟩, by omega⟩

theorem items_fit {items : List Json} :
    (itemsHaveProperStrings items = true ∧ itemsHeight items + depth ≤ Response.maxHeight) ↔
      depth ≤ Response.maxHeight ∧ ∀ v ∈ items, Fits depth v := by
  induction items with
  | nil => simp [itemsHaveProperStrings, itemsHeight]
  | cons v rest ih =>
    rw [itemsHaveProperStrings, itemsHeight, fits_beside, ih, List.forall_mem_cons, and_left_comm]

theorem fields_fit {fields : Fields} :
    (fieldsHaveProperStrings fields = true ∧ fieldsHeight fields + depth ≤ Response.maxHeight) ↔
      depth ≤ Response.maxHeight ∧ ∀ f ∈ fields, Fits depth f.2 := by
  induction fields with
  | nil => simp [fieldsHaveProperStrings, fieldsHeight]
  | cons f rest ih =>
    rw [fieldsHaveProperStrings, fieldsHeight, fits_beside, ih, List.forall_mem_cons, and_left_comm]

theorem fits_arr {items : List Json} :
    Fits depth (.arr items) ↔ depth < Response.maxHeight ∧ ∀ v ∈ items, Fits (depth + 1) v :=
  (fits_around (by rw [height])).trans items_fit

theorem fits_obj {fields : Fields} :
    Fits depth (.obj fields) ↔
      depth < Response.maxHeight ∧ ∀ f ∈ fields, Fits (depth + 1) f.2 :=
  (fits_around (by rw [height])).trans fields_fit

end Json

/-! ### Results -/

namespace Message

def Fits (m : Message) : Prop := Json.Fits 2 (.obj m)

instance (m : Message) : Decidable m.Fits := inferInstanceAs (Decidable (Json.Fits 2 (.obj m)))

theorem fits_blocks {role : String} {items : List Json} :
    Fits [("role", .str role), ("content", .arr items)] ↔ ∀ v ∈ items, Json.Fits 4 v := by
  unfold Fits
  rw [Json.fits_obj, List.forall_mem_cons, List.forall_mem_singleton, Json.fits_str, Json.fits_arr]
  constructor
  · rintro ⟨_, _, _, each⟩
    exact each
  · intro each
    exact ⟨by decide, ⟨rfl, by decide⟩, by decide, each⟩

end Message

theorem AgentResult.fits_toJson (r : AgentResult) :
    Json.Fits 0 r.toJson ↔
      r.text.isProper = true ∧ (∀ name ∈ r.rendered, Json.Fits 2 name) ∧
        ∀ m ∈ r.messages, m.Fits := by
  unfold AgentResult.toJson
  rw [Json.fits_obj]
  simp only [List.forall_mem_cons, List.not_mem_nil, false_implies, implies_true, and_true]
  rw [Json.fits_str, Json.fits_arr, Json.fits_leaf rfl, Json.fits_str, Json.fits_arr]
  constructor
  · rintro ⟨_, ⟨text, _⟩, ⟨_, rendered⟩, _, _, _, messages⟩
    exact ⟨text, rendered, fun m member => messages _ (List.mem_map_of_mem member)⟩
  · rintro ⟨text, rendered, messages⟩
    refine ⟨by decide, ⟨text, by decide⟩, ⟨by decide, rendered⟩, ⟨rfl, by decide⟩,
      ⟨rfl, by decide⟩, by decide, fun v member => ?_⟩
    obtain ⟨m, isMessage, rfl⟩ := List.mem_map.mp member
    exact messages m isMessage

namespace Http.Response

/-- A result that can be sent is, up to what has no place in JSON. -/
theorem result_of_fits {v : Json} (h : v.Fits 0) :
    result v = ok (.json v.finitePart.withShownKeys) := by
  unfold result
  rw [if_pos]
  rw [h.proper, Bool.true_and, decide_eq_true_eq]
  exact h.height

theorem result_of_not_fits {v : Json} (h : ¬ v.Fits 0) : result v = internalError := by
  unfold result
  rw [if_neg]
  rw [Bool.and_eq_true, decide_eq_true_eq]
  rintro ⟨proper, height⟩
  exact h ⟨proper, height⟩

end Http.Response

end RayScene
