import RayScene.Proofs.Json.Reading
import RayScene.Proofs.Json.Written
import RayScene.Proofs.Scene.Language
import RayScene.Scene.Source

/-!
# Written scenes

The text of an accepted scene is read as the same scene (`Scene.ofText_source`), if its nets name
characters only. The JSON value of each part spells that part again, and can be written.
-/

namespace RayScene

open Json (Writable ItemsWritable FieldsWritable)
open Json.Machine (Limits)

namespace Fields

theorem get?_append (before fields : Fields) (key : LooseText) :
    Fields.get? (before ++ fields) key = (before.get? key).or (Fields.get? fields key) := by
  induction before with
  | nil => rfl
  | cons entry rest ih =>
    rw [List.cons_append, Fields.get?, Fields.get?]
    split
    · rfl
    · exact ih

variable {α : Type}

theorem get?_optionalField (k : String) (key : LooseText) (toJson : α → Json) (o : Option α) :
    Fields.get? (optionalField k toJson o) key =
      if (k : LooseText) = key then o.map toJson else none := by
  cases o with
  | none => rw [Option.map_none, ite_self]; rfl
  | some a => rfl

theorem keys_optionalField (key : String) (toJson : α → Json) (o : Option α) :
    (Fields.keys (optionalField key toJson o)).Sublist [.proper key] := by
  cases o with
  | none => exact List.nil_sublist _
  | some a => exact List.Sublist.refl _

end Fields

namespace Json

variable {limits : Limits} {depth : Nat}

theorem itemsWritable_iff {items : List Json} : ItemsWritable limits depth items ↔
    ∀ v ∈ items, depth < limits.depth ∧ Writable limits depth v := by
  induction items with
  | nil => exact ⟨fun _ => List.forall_mem_nil _, fun _ => trivial⟩
  | cons v rest ih => rw [ItemsWritable, ih, List.forall_mem_cons, and_assoc]

theorem fieldsWritable_iff {fields : Fields} : FieldsWritable limits depth fields ↔
    ∀ field ∈ fields, Apart limits field.1.points ∧ depth < limits.depth ∧
      Writable limits depth field.2 := by
  induction fields with
  | nil => exact ⟨fun _ => List.forall_mem_nil _, fun _ => trivial⟩
  | cons field rest ih => rw [FieldsWritable, ih, List.forall_mem_cons, and_assoc, and_assoc]

/-- The value can be written inside all but `levels` of the containers that the limits allow. -/
def Shallow (levels : Nat) (v : Json) : Prop :=
  ∀ {limits : Limits} {depth : Nat}, depth + levels < limits.depth → Writable limits depth v

theorem Shallow.mono {v : Json} {few levels : Nat} (h : v.Shallow few) (less : few ≤ levels) :
    v.Shallow levels :=
  fun room => h (by omega)

theorem shallow_list {items : List Json} {levels : Nat} (each : ∀ v ∈ items, v.Shallow levels) :
    (Json.arr items).Shallow (levels + 1) := by
  intro limits depth room
  exact itemsWritable_iff.mpr fun v member => ⟨by omega, each v member (by omega)⟩

theorem shallow_object {fields : Fields} {levels : Nat} {known : List String}
    (closed : (Fields.keys fields).Sublist (known.map .proper)) (distinct : known.Nodup)
    (each : ∀ field ∈ fields, field.2.Shallow levels) : (Json.obj fields).Shallow (levels + 1) := by
  intro limits depth room
  refine ⟨fieldsWritable_iff.mpr fun field member => ?_, ?_⟩
  · refine ⟨?_, by omega, each field member (by omega)⟩
    have isKey : field.1 ∈ Fields.keys fields := List.mem_map_of_mem member
    obtain ⟨key, _, same⟩ := List.mem_map.mp (closed.subset isKey)
    rw [← same]
    exact apart_chars _
  · exact (distinct.map fun _ _ => LooseText.proper.inj).sublist closed

end Json

theorem Edition.checked_eq_self (e : Edition) {v : Json} (distinct : v.HasDistinctKeys) :
    e.checked v = v := by
  unfold checked
  split
  · rfl
  · exact Json.once_eq_self distinct

structure Form.Written {α : Type} (form : Form α) (levels : Nat) (v : Json) (a : α) : Prop where
  spells : form v a
  given : v ≠ .null
  shallow : v.Shallow levels

namespace Form

variable {α : Type} {form : Form α} {levels : Nat} {v : Json} {a : α}

theorem Written.hasDistinctKeys (h : form.Written levels v a) : v.HasDistinctKeys :=
  Json.Writable.hasDistinctKeys
    (h.shallow (Nat.lt_succ_self (0 + levels)) : Json.Writable ⟨_, none, none, false, false⟩ 0 v)

theorem Written.field (h : form.Written levels v a) {fields : Fields} {key : String}
    (found : Fields.get? fields key = some v) : Field form key fields a :=
  ⟨v, found, h.spells⟩

theorem anyNumber_written (levels : Nat) {n : Number} (h : AnyNumber v n) :
    Written AnyNumber levels n.toJson n := by
  obtain ⟨x, q, _, finite, rfl⟩ := h
  exact ⟨⟨x, q, .float x, finite, rfl⟩, nofun, fun _ => (Check.isFinite_iff x).mpr ⟨q, finite⟩⟩

theorem numberIn_written (levels : Nat) {least most : ℤ} {n : Number}
    (h : NumberIn least most v n) : (NumberIn least most).Written levels n.toJson n := by
  obtain ⟨x, q, _, finite, bounds, rfl⟩ := h
  exact ⟨⟨x, q, .float x, finite, bounds, rfl⟩, nofun,
    fun _ => (Check.isFinite_iff x).mpr ⟨q, finite⟩⟩

theorem name_written (levels : Nat) {s : String} (h : Name v s) : Written Name levels (.str s) s :=
  ⟨⟨rfl, h.2⟩, nofun, fun _ => Json.apart_chars _⟩

theorem text_written (levels : Nat) {t : LooseText} (proper : t.isProper = true) :
    Written Text levels (.str t) t := by
  cases t with
  | proper s => exact ⟨rfl, nofun, fun _ => Json.apart_chars _⟩
  | broken before unit after => cases proper

theorem oneOf_written (levels : Nat) [Named α] {table : List (String × α)}
    (isTable : table = Named.all.map fun a => (Named.name a, a)) (h : OneOf table v a) :
    (OneOf table).Written levels (Named.toJson a) a := by
  obtain ⟨s, _, member⟩ := h
  have row := member
  rw [isTable] at row
  obtain ⟨b, _, same⟩ := List.mem_map.mp row
  cases same
  exact ⟨⟨_, rfl, member⟩, nofun, fun _ => Json.apart_chars _⟩

theorem items_written {as : List α} {toJson : α → Json}
    (each : ∀ a ∈ as, form.Written levels (toJson a) a) :
    form.Items.Written (levels + 1) (.arr (as.map toJson)) as := by
  refine ⟨⟨as.map toJson, rfl, ?_⟩, nofun, Json.shallow_list ?_⟩
  · rw [List.forall₂_map_left_iff, List.forall₂_same]
    exact fun a member => (each a member).spells
  · exact List.forall_mem_map.mpr fun a member => (each a member).shallow

theorem exists_spells {as : List α} (h : form.Items v as) (a : α) (member : a ∈ as) :
    ∃ v, form v a := by
  obtain ⟨vs, _, each⟩ := h
  obtain ⟨⟨i, bound⟩, rfl⟩ := List.get_of_mem member
  exact ⟨vs.get ⟨i, each.length_eq ▸ bound⟩, each.get _ bound⟩

theorem optionalField_written {o : Option α} {key : String} {fields : Fields} {toJson : α → Json}
    (h : OptionalField form key fields o)
    (each : ∀ v a, form v a → form.Written levels (toJson a) a) :
    (∀ field ∈ optionalField key toJson o, field.2.Shallow levels) ∧
      ∀ {written : Fields}, Fields.get? written key = o.map toJson →
        OptionalField form key written o := by
  cases o with
  | none =>
    refine ⟨nofun, fun absent v present => ?_⟩
    cases absent.symm.trans present
  | some a =>
    obtain ⟨v, _, _, spells⟩ := h
    have written := each v a spells
    refine ⟨?_, fun found => ⟨toJson a, found, written.given, written.spells⟩⟩
    exact List.forall_mem_singleton.mpr written.shallow

theorem object_written {known : List String} {fits : Fields → α → Prop} {fields : Fields}
    (closed : (Fields.keys fields).Sublist (known.map .proper)) (distinct : known.Nodup)
    (each : ∀ field ∈ fields, field.2.Shallow levels) (fit : fits fields a) :
    (Object known fits).Written (levels + 1) (.obj fields) a := by
  refine ⟨⟨fields, rfl, fun key member => ?_, fit⟩, nofun, Json.shallow_object closed distinct each⟩
  obtain ⟨k, isKnown, same⟩ := List.mem_map.mp (closed.subset member)
  exact ⟨k, isKnown, same.symm⟩

end Form

/-! ### The parts of a scene -/

section
variable {v : Json}

theorem Vec3.written {a : Vec3} (h : Vec3.form v a) : Vec3.form.Written 1 a.toJson a := by
  obtain ⟨_, _, _, ⟨_, _, x⟩, ⟨_, _, y⟩, ⟨_, _, z⟩⟩ := h
  have x := Form.anyNumber_written 0 x
  have y := Form.anyNumber_written 0 y
  have z := Form.anyNumber_written 0 z
  refine Form.object_written (.refl _) (by decide) ?_ ⟨x.field rfl, y.field rfl, z.field rfl⟩
  simp only [List.forall_mem_cons]
  exact ⟨x.shallow, y.shallow, z.shallow, nofun⟩

theorem Angles.written {a : Angles} (h : Angles.form v a) : Angles.form.Written 1 a.toJson a := by
  obtain ⟨_, _, _, ⟨_, _, pitch⟩, ⟨_, _, yaw⟩⟩ := h
  have pitch := Form.numberIn_written 0 pitch
  have yaw := Form.numberIn_written 0 yaw
  refine Form.object_written (.refl _) (by decide) ?_ ⟨pitch.field rfl, yaw.field rfl⟩
  simp only [List.forall_mem_cons]
  exact ⟨pitch.shallow, yaw.shallow, nofun⟩

theorem Color.written {c : Color} (h : Color.form v c) : Color.form.Written 1 c.toJson c := by
  obtain ⟨_, _, _, ⟨_, _, red⟩, ⟨_, _, green⟩, ⟨_, _, blue⟩⟩ := h
  have red := Form.numberIn_written 0 red
  have green := Form.numberIn_written 0 green
  have blue := Form.numberIn_written 0 blue
  refine Form.object_written (.refl _) (by decide) ?_
    ⟨red.field rfl, green.field rfl, blue.field rfl⟩
  simp only [List.forall_mem_cons]
  exact ⟨red.shallow, green.shallow, blue.shallow, nofun⟩

theorem Light.written {l : Light} (h : Light.form v l) : Light.form.Written 2 l.toJson l := by
  obtain ⟨_, _, _, ⟨_, _, angles⟩, ⟨_, _, intensity⟩⟩ := h
  have angles := Angles.written angles
  have intensity := Form.numberIn_written 1 intensity
  refine Form.object_written (.refl _) (by decide) ?_ ⟨angles.field rfl, intensity.field rfl⟩
  simp only [List.forall_mem_cons]
  exact ⟨angles.shallow, intensity.shallow, nofun⟩

theorem SceneObject.written {o : SceneObject} (h : SceneObject.form v o) :
    SceneObject.form.Written 2 o.toJson o := by
  obtain ⟨_, _, _, h⟩ := h
  obtain ⟨_, _, name⟩ := h.name
  obtain ⟨_, _, shape⟩ := h.shape
  obtain ⟨_, _, param⟩ := h.param
  obtain ⟨_, _, position⟩ := h.position
  obtain ⟨_, _, direction⟩ := h.direction
  obtain ⟨_, _, color⟩ := h.color
  have name := Form.name_written 1 name
  have shape := Form.oneOf_written 1 rfl shape
  have param := Vec3.written param
  have position := Vec3.written position
  have direction := Form.anyNumber_written 1 direction
  have color := Color.written color
  obtain ⟨textureShallow, texture⟩ :=
    Form.optionalField_written h.texture fun _ _ => Form.oneOf_written 1 rfl
  obtain ⟨reflectionShallow, reflection⟩ :=
    Form.optionalField_written h.reflection fun _ _ => Form.oneOf_written 1 rfl
  obtain ⟨rotationShallow, rotation⟩ :=
    Form.optionalField_written h.rotation fun _ _ => Vec3.written
  obtain ⟨diffuseShallow, diffuse⟩ :=
    Form.optionalField_written h.diffuse fun _ _ => Form.numberIn_written 1
  obtain ⟨highlightShallow, highlight⟩ :=
    Form.optionalField_written h.highlight fun _ _ => Form.numberIn_written 1
  refine Form.object_written ?_ (by decide) ?_ ⟨name.field rfl, shape.field rfl, param.field rfl,
    position.field rfl, direction.field rfl, color.field rfl, texture ?_, reflection ?_,
    rotation ?_, diffuse ?_, highlight ?_⟩
  · simp only [Json.keys_append]
    exact (((((List.Sublist.refl _).append (Fields.keys_optionalField ..)).append
      (Fields.keys_optionalField ..)).append (Fields.keys_optionalField ..)).append
      (Fields.keys_optionalField ..)).append (Fields.keys_optionalField ..)
  · simp only [List.forall_mem_append, List.forall_mem_cons]
    exact ⟨⟨⟨⟨⟨⟨name.shallow, shape.shallow, param.shallow, position.shallow, direction.shallow,
      color.shallow, nofun⟩, textureShallow⟩, reflectionShallow⟩, rotationShallow⟩,
      diffuseShallow⟩, highlightShallow⟩
  -- An optional field is found behind the required ones, if it is not left out.
  all_goals simp [Fields.get?_append, Fields.get?_optionalField, Fields.get?]

theorem Scene.written {s : Scene} (h : Scene.form v s) (storable : s.isStorable = true) :
    Scene.form.Written 4 s.toJson s := by
  obtain ⟨_, _, _, ⟨_, _, position⟩, ⟨_, _, angles⟩, ⟨_, _, lights, one⟩, ⟨_, _, objects, distinct⟩,
    _⟩ := h
  have position := Vec3.written position
  have angles := Angles.written angles
  have lights := Form.items_written fun l member =>
    Light.written (Form.exists_spells lights l member).choose_spec
  have objects := Form.items_written fun o member =>
    SceneObject.written (Form.exists_spells objects o member).choose_spec
  have nets := Form.items_written fun net isNet => Form.items_written fun name isName =>
    Form.text_written 1 (List.all_eq_true.mp (List.all_eq_true.mp storable net isNet) name isName)
  refine Form.object_written (.refl _) (by decide) ?_ ⟨position.field rfl, angles.field rfl,
    ⟨_, rfl, lights.spells, one⟩, ⟨_, rfl, objects.spells, distinct⟩, nets.field rfl⟩
  simp only [List.forall_mem_cons]
  exact ⟨Json.Shallow.mono position.shallow (by decide),
    Json.Shallow.mono angles.shallow (by decide), lights.shallow, objects.shallow, nets.shallow,
    nofun⟩

end

theorem Json.roomy_textLimits (countsSign : Bool) : Json.Roomy (Json.textLimits countsSign) := by
  intro negative width short
  refine decide_eq_true ?_
  unfold Machine.Limits.span
  split <;> omega

theorem Scene.ofText_source (e : Edition) {v : Json} {s : Scene} (accepted : Scene.check v = .ok s)
    (storable : s.isStorable = true) : Scene.ofText e s.source = .ok s := by
  have written := Scene.written (((Scene.check_decides v).ok_iff s).mp accepted) storable
  have spelled : Json.Grammar.Spells (Json.textLimits e.countsSign) s.source s.toJson :=
    Json.spells_indented (Json.roomy_textLimits _) (show 0 < 201 by decide)
      (written.shallow (show 0 + 4 < 201 by decide))
  have parsed := Json.parse_of_spells spelled
  rw [Scene.ofText, parsed]
  dsimp only
  rw [e.checked_eq_self written.hasDistinctKeys]
  exact ((Scene.checkIn_decides _ _).ok_iff s).mpr written.spells

end RayScene
