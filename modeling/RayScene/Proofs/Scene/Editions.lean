import Mathlib.Data.List.Perm.Subperm
import RayScene.Proofs.Json.Keys
import RayScene.Proofs.Scene.Explaining
import RayScene.Scene.Source

/-!
# What editions report

The editions of the library that reads texts report alike what is wrong with the value of a text:
the violations that a check finds in the value with each key once (`Edition.checkIn_restates`). Only
that a field is unknown may be reported in another place, and as often as the text has the field.
-/

namespace RayScene

def Violation.isKnown (x : Violation) : Bool := x.rule ≠ .noExtra

namespace Collected

variable {ε δ α β : Type}

theorem relabel_ok_iff {f : ε → δ} {a : Collected ε α} {x : α} :
    a.relabel f = .ok x ↔ a = .ok x := by
  refine ⟨relabel_ok, ?_⟩
  rintro rfl
  rfl

theorem map_ok_iff {f : α → β} {a : Collected ε α} {y : β} :
    Except.map f a = .ok y ↔ ∃ x, a = .ok x ∧ f x = y := by
  refine ⟨Outcome.map_ok, ?_⟩
  rintro ⟨x, rfl, rfl⟩
  rfl

theorem app_ok_iff {f : Collected ε (α → β)} {a : Collected ε α} {y : β} :
    f.app a = .ok y ↔ ∃ g x, g x = y ∧ f = .ok g ∧ a = .ok x := by
  refine ⟨app_ok, ?_⟩
  rintro ⟨g, x, rfl, rfl, rfl⟩
  rfl

theorem rejecting_ok_iff {before : Bool} {a : Collected ε α} {es : List ε} {x : α} :
    a.rejecting before es = .ok x ↔ a = .ok x ∧ es = [] := by
  constructor
  · intro h
    cases es with
    | nil => exact ⟨rejecting_ok h, rfl⟩
    | cons e es => cases a <;> cases h
  · rintro ⟨rfl, rfl⟩
    rfl

theorem perm_errors_rejecting (before : Bool) (a : Collected ε α) (es : List ε) :
    (a.rejecting before es).errors.Perm (a.errors ++ es) := by
  rw [errors_rejecting]
  cases before with
  | true => exact List.perm_append_comm
  | false => rfl

end Collected

namespace Checked

open Collected

variable {α β : Type}

/-- The one result is what the other one is. If there is none, the same violations are reported, as
often at least, and those that are not of unknown fields in the same order and as often. -/
structure Restates (a b : Checked α) : Prop where
  reads (x : α) : a = .ok x ↔ b = .ok x
  known : a.errors.filter Violation.isKnown = b.errors.filter Violation.isKnown
  least : b.errors.Subperm a.errors
  most : a.errors ⊆ b.errors

namespace Restates

variable {a b : Checked α}

theorem refl (a : Checked α) : Restates a a := ⟨fun _ => Iff.rfl, rfl, .refl _, List.Subset.refl _⟩

theorem under (h : Restates a b) (g : Segment) : Restates (a.under g) (b.under g) where
  reads x := relabel_ok_iff.trans ((h.reads x).trans relabel_ok_iff.symm)
  known := by
    have moved (es : List Violation) :
        (es.map fun v => { v with path := g :: v.path }).filter Violation.isKnown =
          (es.filter Violation.isKnown).map fun v => { v with path := g :: v.path } :=
      List.filter_map
    unfold Checked.under
    rw [errors_relabel, errors_relabel, moved, moved, h.known]
  least := by
    unfold Checked.under
    rw [errors_relabel, errors_relabel]
    refine List.Subperm.map ?_ h.least
    rintro ⟨path, rule⟩ ⟨path', rule'⟩ same
    cases same
    rfl
  most := by
    unfold Checked.under
    rw [errors_relabel, errors_relabel]
    exact List.map_subset _ h.most

theorem map (h : Restates a b) (f : α → β) : Restates (Except.map f a) (Except.map f b) where
  reads y := by
    rw [map_ok_iff, map_ok_iff]
    exact exists_congr fun x => and_congr_left fun _ => h.reads x
  known := by rw [errors_map, errors_map, h.known]
  least := by rw [errors_map, errors_map]; exact h.least
  most := by rw [errors_map, errors_map]; exact h.most

theorem app {f g : Checked (α → β)} (hf : Restates f g) (h : Restates a b) :
    Restates (Collected.app f a) (Collected.app g b) where
  reads y := by
    rw [app_ok_iff, app_ok_iff]
    exact exists_congr fun k => exists_congr fun x =>
      and_congr_right fun _ => and_congr (hf.reads k) (h.reads x)
  known := by rw [errors_app, errors_app, List.filter_append, List.filter_append, hf.known, h.known]
  least := by rw [errors_app, errors_app]; exact hf.least.append h.least
  most := by
    rw [errors_app, errors_app]
    exact List.append_subset.mpr ⟨List.subset_append_of_subset_left _ hf.most,
      List.subset_append_of_subset_right _ h.most⟩

theorem bind (h : Restates a b) (next : α → Checked β) : Restates (a >>= next) (b >>= next) := by
  cases a with
  | ok x =>
    rw [(h.reads x).mp rfl]
    exact .refl _
  | error es =>
    cases b with
    | ok x => cases (h.reads x).mpr rfl
    | error es' => exact ⟨fun y => iff_of_false nofun nofun, h.known, h.least, h.most⟩

/-- Unknown fields may be reported before the other violations, and more often. -/
theorem rejecting (h : Restates a b) {es es' : List Violation}
    (unknown : ∀ x ∈ es, x.isKnown = false) (least : es'.Subperm es) (most : es ⊆ es')
    (before before' : Bool) :
    Restates (Collected.rejecting before a es) (Collected.rejecting before' b es') where
  reads x := by
    rw [rejecting_ok_iff, rejecting_ok_iff, h.reads x]
    refine and_congr_right fun _ => ⟨?_, ?_⟩
    · rintro rfl
      exact List.subperm_nil.mp least
    · rintro rfl
      exact List.subset_nil.mp most
  known := by
    have nothing {xs : List Violation} (within : xs ⊆ es) : xs.filter Violation.isKnown = [] :=
      List.filter_eq_nil_iff.mpr fun x member => Bool.eq_false_iff.mp (unknown x (within member))
    have kept (before : Bool) (c : Checked α) {xs : List Violation} (within : xs ⊆ es) :
        (Collected.rejecting before c xs).errors.filter Violation.isKnown =
          c.errors.filter Violation.isKnown := by
      rw [errors_rejecting]
      cases before <;> simp [nothing within]
    rw [kept before a (List.Subset.refl es), kept before' b least.subset, h.known]
  least :=
    (perm_errors_rejecting before' b es').subperm.trans
      ((h.least.append least).trans (perm_errors_rejecting before a es).symm.subperm)
  most := by
    refine List.Subset.trans (perm_errors_rejecting before a es).subset ?_
    refine List.Subset.trans ?_ (perm_errors_rejecting before' b es').symm.subset
    exact List.append_subset.mpr ⟨List.subset_append_of_subset_left _ h.most,
      List.subset_append_of_subset_right _ most⟩

theorem perm (h : Restates a b) (back : Restates b a) : a.errors.Perm b.errors :=
  back.least.antisymm h.least

end Restates

end Checked

/-! ### Checks that say the same -/

namespace Check

open Json (itemsOnce fieldsOnce)

variable {α : Type} {c d : Json → Checked α}

/-- Of a value, the one check says what the other one says of the value with each key once. -/
def Restates (c d : Json → Checked α) : Prop := ∀ v, Checked.Restates (c v) (d v.once)

theorem restates_of_once (same : ∀ v, c v.once = c v) : Restates c c := fun v => by
  rw [same]
  exact .refl _

theorem string_restates : Restates string string := restates_of_once fun v => by cases v <;> rfl

theorem nonEmptyString_restates : Restates nonEmptyString nonEmptyString :=
  restates_of_once fun v => by cases v <;> rfl

theorem anyNumber_restates : Restates anyNumber anyNumber :=
  restates_of_once fun v => by cases v <;> rfl

theorem numberIn_restates (least most : Int) :
    Restates (numberIn least most) (numberIn least most) :=
  restates_of_once fun v => by cases v <;> rfl

theorem choice_restates (α : Type) [Named α] : Restates (choice α) (choice α) :=
  restates_of_once fun v => by cases v <;> rfl

theorem required_restates (h : Restates c d) (fields : Fields) (key : LooseText) :
    Checked.Restates (required fields key c) (required (fieldsOnce fields) key d) := by
  unfold required
  rw [Fields.get?_fieldsOnce]
  cases Fields.get? fields key with
  | none => exact .refl _
  | some v => exact (h v).under _

theorem optional_restates (h : Restates c d) (fields : Fields) (key : LooseText) :
    Checked.Restates (optional fields key c) (optional (fieldsOnce fields) key d) := by
  unfold optional
  rw [Fields.get?_fieldsOnce]
  cases Fields.get? fields key with
  | none => exact .refl _
  | some v =>
    cases v with
    | null => exact .refl _
    | _ => exact ((h _).under _).map _

theorem items_restates (h : Restates c d) (i : Nat) (vs : List Json) :
    Checked.Restates (items c i vs) (items d i (itemsOnce vs)) := by
  induction vs generalizing i with
  | nil => exact .refl _
  | cons v rest ih => exact (((h v).under _).map _).app (ih (i + 1))

theorem list_restates (h : Restates c d) : Restates (list c) (list d) := by
  intro v
  cases v with
  | arr vs => exact items_restates h 0 vs
  | _ => exact .refl _

theorem length_itemsOnce (vs : List Json) : (itemsOnce vs).length = vs.length := by
  induction vs with
  | nil => rfl
  | cons v rest ih => exact congrArg (· + 1) ih

theorem boundedList_restates (h : Restates c d) (least most : Nat) :
    Restates (boundedList least most c) (boundedList least most d) := by
  intro v
  cases v with
  | arr vs =>
    rw [Json.once]
    unfold boundedList
    dsimp only
    rw [length_itemsOnce]
    split
    · exact .refl _
    · split
      · exact .refl _
      · exact items_restates h 0 vs
  | _ => exact .refl _

theorem mem_extras {known : List String} {fields : Fields} {x : Violation} :
    x ∈ extras known fields ↔ ∃ key ∈ Fields.keys fields,
      key ∉ known.map LooseText.proper ∧ x = ⟨[.key key], .noExtra⟩ := by
  unfold extras
  simp only [List.mem_map, List.mem_filter, Bool.not_eq_true', List.contains_eq_mem,
    decide_eq_false_iff_not, and_assoc]
  exact exists_congr fun key => and_congr_right fun _ => and_congr_right fun _ => eq_comm

theorem nodup_extras (known : List String) {fields : Fields}
    (distinct : (Fields.keys fields).Nodup) : (extras known fields).Nodup := by
  refine (distinct.filter _).map fun key key' same => ?_
  cases same
  rfl

theorem extras_fieldsOnce_subperm (known : List String) (fields : Fields) :
    (extras known (fieldsOnce fields)).Subperm (extras known fields) := by
  refine List.subperm_of_subset (nodup_extras known (Fields.keys_fieldsOnce_nodup fields)) ?_
  intro x member
  obtain ⟨key, isKey, unknown, rfl⟩ := mem_extras.mp member
  exact mem_extras.mpr ⟨key, Fields.mem_keys_fieldsOnce.mp isKey, unknown, rfl⟩

theorem extras_subset_fieldsOnce (known : List String) (fields : Fields) :
    extras known fields ⊆ extras known (fieldsOnce fields) := by
  intro x member
  obtain ⟨key, isKey, unknown, rfl⟩ := mem_extras.mp member
  exact mem_extras.mpr ⟨key, Fields.mem_keys_fieldsOnce.mpr isKey, unknown, rfl⟩

theorem all_keys_fieldsOnce (p : LooseText → Bool) (fields : Fields) :
    (Fields.keys (fieldsOnce fields)).all p = (Fields.keys fields).all p := by
  rw [Bool.eq_iff_iff, List.all_eq_true, List.all_eq_true]
  exact forall_congr' fun key => imp_congr_left Fields.mem_keys_fieldsOnce

theorem closedObject_restates {read read' : Fields → Checked α}
    (h : ∀ fields, Checked.Restates (read fields) (read' (fieldsOnce fields)))
    (order order' : Order) (kind : Kind) (known : List String) :
    Restates (closedObject order kind known read) (closedObject order' kind known read') := by
  intro v
  cases v with
  | obj fields =>
    rw [Json.once]
    unfold closedObject object
    dsimp only
    rw [all_keys_fieldsOnce]
    split
    · refine (h fields).rejecting (fun x member => ?_) (extras_fieldsOnce_subperm known fields)
        (extras_subset_fieldsOnce known fields) _ _
      obtain ⟨key, _, _, rfl⟩ := mem_extras.mp member
      rfl
    · exact .refl _
  | _ => exact .refl _

end Check

/-! ### Scenes -/

section

variable (order order' : Check.Order)

open Check

theorem Vec3.checkIn_restates : Check.Restates (Vec3.checkIn order) (Vec3.checkIn order') := by
  refine closedObject_restates (fun fields => ?_) _ _ _ _
  have number := required_restates anyNumber_restates fields
  exact (((Checked.Restates.refl _).app (number "x")).app (number "y")).app (number "z")

theorem Angles.checkIn_restates :
    Check.Restates (Angles.checkIn order) (Angles.checkIn order') := by
  refine closedObject_restates (fun fields => ?_) _ _ _ _
  exact ((Checked.Restates.refl _).app (required_restates (numberIn_restates _ _) fields "a")).app
    (required_restates (numberIn_restates _ _) fields "b")

theorem Color.checkIn_restates : Check.Restates (Color.checkIn order) (Color.checkIn order') := by
  refine closedObject_restates (fun fields => ?_) _ _ _ _
  have component := required_restates (numberIn_restates 0 255) fields
  exact (((Checked.Restates.refl _).app (component "r")).app (component "g")).app (component "b")

theorem Light.checkIn_restates : Check.Restates (Light.checkIn order) (Light.checkIn order') := by
  refine closedObject_restates (fun fields => ?_) _ _ _ _
  exact ((Checked.Restates.refl _).app
    (required_restates (Angles.checkIn_restates order order') fields "angle")).app
      (required_restates (numberIn_restates 0 255) fields "intensity")

theorem SceneObject.checkIn_restates :
    Check.Restates (SceneObject.checkIn order) (SceneObject.checkIn order') := by
  refine closedObject_restates (fun fields => ?_) _ _ _ _
  have vector := Vec3.checkIn_restates order order'
  exact Checked.Restates.refl (Collected.pure SceneObject.mk)
    |>.app (required_restates nonEmptyString_restates fields "name")
    |>.app (required_restates (choice_restates Shape) fields "shape")
    |>.app (required_restates vector fields "param")
    |>.app (required_restates vector fields "position")
    |>.app (required_restates anyNumber_restates fields "direction")
    |>.app (required_restates (Color.checkIn_restates order order') fields "color")
    |>.app (optional_restates (choice_restates Texture) fields "texture")
    |>.app (optional_restates (choice_restates Reflection) fields "reflect_type")
    |>.app (optional_restates vector fields "rotation")
    |>.app (optional_restates (numberIn_restates 0 1) fields "diffuse")
    |>.app (optional_restates (numberIn_restates 0 255) fields "highlight")

theorem SceneObject.checkAllIn_restates :
    Check.Restates (SceneObject.checkAllIn order) (SceneObject.checkAllIn order') := fun v =>
  (boundedList_restates (SceneObject.checkIn_restates order order') _ _ v).bind _

theorem Scene.checkIn_restates : Check.Restates (Scene.checkIn order) (Scene.checkIn order') := by
  refine closedObject_restates (fun fields => ?_) _ _ _ _
  have lights := boundedList_restates (Light.checkIn_restates order order') requiredLights
    requiredLights
  exact Checked.Restates.refl (Collected.pure Scene.mk)
    |>.app (required_restates (Vec3.checkIn_restates order order') fields "camera_position")
    |>.app (required_restates (Angles.checkIn_restates order order') fields "camera_angle")
    |>.app (required_restates lights fields "lights")
    |>.app (required_restates (SceneObject.checkAllIn_restates order order') fields "objects")
    |>.app (required_restates (list_restates (list_restates string_restates)) fields "and_nets")

end

namespace Edition

theorem once_checked (e : Edition) (v : Json) : (e.checked v).once = v.once := by
  unfold checked
  split
  · rfl
  · exact Json.once_once v

theorem checked_eq_once {e : Edition} {v : Json} (h : e.repeats = false ∨ v.once = v) :
    e.checked v = v.once := by
  unfold checked
  rcases h with never | same
  · rw [never]
    rfl
  · rw [same, ite_self]

/-- What an edition says of the value of a text is what is said of the value with each key once. -/
theorem checkIn_restates (e : Edition) (v : Json) :
    Checked.Restates (Scene.checkIn e.order (e.checked v)) (Scene.check v.once) := by
  have restates := Scene.checkIn_restates e.order .unknownLast (e.checked v)
  rwa [e.once_checked] at restates

/-- If no field is reported again, violations are reported in another order at most. -/
theorem checkIn_perm {e : Edition} {v : Json} (h : e.repeats = false ∨ v.once = v) :
    (Scene.checkIn e.order (e.checked v)).errors.Perm (Scene.check v.once).errors := by
  have back := Scene.checkIn_restates .unknownLast e.order v.once
  rw [Json.once_once] at back
  rw [checked_eq_once h]
  have there := Scene.checkIn_restates e.order .unknownLast v.once
  rw [Json.once_once] at there
  exact there.perm back

end Edition

end RayScene
