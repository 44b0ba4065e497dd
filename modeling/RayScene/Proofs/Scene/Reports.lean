import RayScene.Proofs.Scene.Explaining

/-!
# What is reported of a scene

The check of scenes reports exactly the places where a value offends `Scene.schema`, apart from
those inside a list that is too long or an object with a key that holds a surrogate. It reports each
of them once and in the order of the schema (`Scene.check_reports`).
-/

namespace RayScene

open Schema

section

variable (v : Json)

theorem Vec3.checkIn_explains : Vec3.schema.Explains v (Vec3.checkIn .unknownLast v).errors := by
  refine closedObject_explains (fun _ v => (Check.anyNumber v).errors) (by decide)
    (fun _ _ => anyNumber_explains) (fun fields => ?_) v
  simp

def Angles.fieldErrors (k : String) (v : Json) : List Violation :=
  if k = "a" then (Check.numberIn (-90) 90 v).errors else (Check.numberIn (-180) 180 v).errors

theorem Angles.checkIn_explains :
    Angles.schema.Explains v (Angles.checkIn .unknownLast v).errors := by
  refine closedObject_explains Angles.fieldErrors (by decide) ?_ (fun fields => ?_) v
  · simp [Angles.fieldErrors, numberIn_explains]
  · simp only [Collected.errors_app, Collected.errors_pure, errors_required, List.flatMap_cons,
      List.flatMap_nil, List.nil_append, List.append_nil]
    rfl

theorem Color.checkIn_explains : Color.schema.Explains v (Color.checkIn .unknownLast v).errors := by
  refine closedObject_explains (fun _ v => (Check.numberIn 0 255 v).errors) (by decide)
    (fun _ _ => numberIn_explains 0 255) (fun fields => ?_) v
  simp

def Light.fieldErrors (k : String) (v : Json) : List Violation :=
  if k = "angle" then (Angles.checkIn .unknownLast v).errors else (Check.numberIn 0 255 v).errors

theorem Light.checkIn_explains : Light.schema.Explains v (Light.checkIn .unknownLast v).errors := by
  refine closedObject_explains Light.fieldErrors (by decide) ?_ (fun fields => ?_) v
  · simp [Light.fieldErrors, numberIn_explains, Angles.checkIn_explains]
  · simp only [Collected.errors_app, Collected.errors_pure, errors_required, List.flatMap_cons,
      List.flatMap_nil, List.nil_append, List.append_nil]
    rfl

def SceneObject.fieldErrors (k : String) (v : Json) : List Violation :=
  if k = "name" then (Check.nonEmptyString v).errors
  else if k = "shape" then (Check.choice Shape v).errors
  else if k = "direction" then (Check.anyNumber v).errors
  else if k = "color" then (Color.checkIn .unknownLast v).errors
  else if k = "texture" then (Check.choice Texture v).errors
  else if k = "reflect_type" then (Check.choice Reflection v).errors
  else if k = "diffuse" then (Check.numberIn 0 1 v).errors
  else if k = "highlight" then (Check.numberIn 0 255 v).errors
  else (Vec3.checkIn .unknownLast v).errors

theorem SceneObject.checkIn_explains :
    SceneObject.schema.Explains v (SceneObject.checkIn .unknownLast v).errors := by
  refine closedObject_explains SceneObject.fieldErrors (by decide) ?_ (fun fields => ?_) v
  · have shape : ∀ v, (oneOf ["Cube", "Plane", "Quad", "Cone"]).Explains v _ :=
      choice_explains Shape
    have texture : ∀ v, (oneOf ["Plain", "Checker", "Striped", "Circular", "Dots"]).Explains v _ :=
      choice_explains Texture
    have reflection : ∀ v, (oneOf ["Matte", "Normal", "Mirror"]).Explains v _ :=
      choice_explains Reflection
    simp [SceneObject.fieldErrors, numberIn_explains, anyNumber_explains, name_explains,
      Color.checkIn_explains, Vec3.checkIn_explains, shape, texture, reflection]
  · simp only [Collected.errors_app, Collected.errors_pure, errors_required, errors_optional,
      List.flatMap_cons, List.flatMap_nil, List.append_assoc, List.nil_append, List.append_nil]
    rfl

omit v in
theorem SceneObject.form_itemName {v : Json} {o : SceneObject} (h : SceneObject.form v o) :
    v.itemName? = some o.name := by
  obtain ⟨fields, rfl, -, fits⟩ := h
  obtain ⟨u, there, rfl, -⟩ := fits.name
  simp only [Json.itemName?, Json.get?, there]
  rfl

omit v in
theorem SceneObject.forms_itemNames {us : List Json} {os : List SceneObject}
    (h : List.Forall₂ SceneObject.form us os) :
    us.filterMap Json.itemName? = os.map SceneObject.name := by
  induction h with
  | nil => rfl
  | cons form _ ih =>
    rw [List.filterMap_cons_some (SceneObject.form_itemName form), ih]
    rfl

theorem SceneObject.checkAllIn_explains :
    (named (.list 0 (some 60) SceneObject.schema)).Explains v
      (SceneObject.checkAllIn .unknownLast v).errors := by
  have items : (Schema.list 0 (some 60) SceneObject.schema).Explains v
      (Check.boundedList 0 maxObjects (SceneObject.checkIn .unknownLast) v).errors :=
    boundedList_explains SceneObject.checkIn_explains (Nat.zero_le 1) v
  have decides := Check.boundedList_decides (SceneObject.checkIn_decides .unknownLast) 0 maxObjects v
  unfold SceneObject.checkAllIn
  cases read : Check.boundedList 0 maxObjects (SceneObject.checkIn .unknownLast) v with
  | error es =>
    rw [read] at items
    refine named_explains_wrong items ?_
    rintro rfl
    exact decides.complains read
  | ok os =>
    obtain ⟨⟨us, rfl, forms⟩, -⟩ := (decides.ok_iff os).mp read
    rw [read] at items
    have names := SceneObject.forms_itemNames forms
    dsimp only [bind, Except.bind]
    cases repeated : SceneObject.firstRepeated [] os with
    | some name =>
      refine named_explains_repeated items ?_
      rw [names]
      exact SceneObject.isFirstRepeated_of_firstRepeated List.nodup_nil repeated
    | none =>
      refine named_explains_distinct items ?_
      rw [names]
      exact ((SceneObject.firstRepeated_eq_none_iff [] os).mp repeated).1

def Scene.fieldErrors (k : String) (v : Json) : List Violation :=
  if k = "camera_position" then (Vec3.checkIn .unknownLast v).errors
  else if k = "camera_angle" then (Angles.checkIn .unknownLast v).errors
  else if k = "lights" then
    (Check.boundedList requiredLights requiredLights (Light.checkIn .unknownLast) v).errors
  else if k = "objects" then (SceneObject.checkAllIn .unknownLast v).errors
  else (Check.list (Check.list Check.string) v).errors

theorem Scene.check_explains : Scene.schema.Explains v (Scene.check v).errors := by
  refine closedObject_explains Scene.fieldErrors (by decide) ?_ (fun fields => ?_) v
  · have lights : ∀ v, (Schema.list 1 (some 1) Light.schema).Explains v
        (Check.boundedList requiredLights requiredLights (Light.checkIn .unknownLast) v).errors :=
      boundedList_explains Light.checkIn_explains le_rfl
    have nets := list_explains (list_explains string_explains)
    simp [Scene.fieldErrors, Vec3.checkIn_explains, Angles.checkIn_explains, lights,
      SceneObject.checkAllIn_explains, nets]
  · simp only [Collected.errors_app, Collected.errors_pure, errors_required, List.flatMap_cons,
      List.flatMap_nil, List.append_assoc, List.nil_append, List.append_nil]
    rfl

end

/-! ### Namesakes -/

/-- Two objects share a name, all objects are otherwise valid, and there are not too many. -/
inductive Scene.HasNamesakes : Json → Prop
  | intro {fields : Fields} {us : List Json} {os : List SceneObject} :
      (∀ key ∈ Fields.keys fields, key.isProper = true) →
      Fields.get? fields "objects" = some (.arr us) → us.length ≤ 60 →
      List.Forall₂ SceneObject.form us os → ¬ (os.map SceneObject.name).Nodup →
      HasNamesakes (.obj fields)

/-- Nothing is wrong with objects, names apart, if they are valid and not too many. -/
theorem SceneObject.nothing_offends_iff (us : List Json) :
    (∀ x, ¬ (Schema.list 0 (some 60) SceneObject.schema).Offends (.arr us) x) ↔
      us.length ≤ 60 ∧ ∃ os, List.Forall₂ SceneObject.form us os := by
  have explains : (Schema.list 0 (some 60) SceneObject.schema).Explains (.arr us) _ :=
    boundedList_explains SceneObject.checkIn_explains (Nat.zero_le 1) (.arr us)
  have decides := Check.boundedList_decides (SceneObject.checkIn_decides .unknownLast) 0 60 (.arr us)
  constructor
  · intro nothing
    cases read : Check.boundedList 0 60 (SceneObject.checkIn .unknownLast) (.arr us) with
    | error es =>
      rw [read] at explains
      have empty : es = [] := List.eq_nil_iff_forall_not_mem.mpr fun x member =>
        nothing x (explains.sound x member)
      exact absurd (empty ▸ read) decides.complains
    | ok os =>
      obtain ⟨items, -, bound⟩ := (decides.ok_iff os).mp read
      have forms := Check.items_form.mp items
      rw [← forms.length_eq] at bound
      exact ⟨bound, os, forms⟩
  · rintro ⟨bound, os, forms⟩
    have read := (decides.ok_iff os).mpr
      ⟨⟨us, rfl, forms⟩, Nat.zero_le _, forms.length_eq ▸ bound⟩
    rw [read] at explains
    exact explains.nothing_offends

theorem exists_isFirstRepeated {os : List SceneObject} (h : ¬ (os.map SceneObject.name).Nodup) :
    ∃ name, IsFirstRepeated (os.map SceneObject.name) name := by
  cases repeated : SceneObject.firstRepeated [] os with
  | none => exact absurd ((SceneObject.firstRepeated_eq_none_iff [] os).mp repeated).1 h
  | some name =>
    exact ⟨name, SceneObject.isFirstRepeated_of_firstRepeated List.nodup_nil repeated⟩

namespace Scene

variable {v : Json} {vs : List Violation} (explains : Scene.schema.Explains v vs)

include explains

/-- A rule of the scene itself that fails is reported, and then nothing else is. -/
theorem keys_proper_of_mem {fields : Fields} {x : Violation} (isObject : v = .obj fields)
    (member : x ∈ vs) (inside : x.path ≠ []) : ∀ key ∈ Fields.keys fields, key.isProper = true := by
  subst isObject
  intro key there
  by_contra improper
  have broken : Scene.schema.Offends (.obj fields) ⟨[], .unicode⟩ :=
    .inl (.intro (.brokenKey there (eq_false_of_ne_true improper)))
  rcases explains.complete _ broken with reported | ⟨y, _, masks⟩
  · obtain ⟨g, rest, path⟩ := List.exists_cons_of_ne_nil inside
    exact explains.apart x member _ reported ⟨.inr rfl, g, rest, path⟩
  · exact Violation.not_masks_of_path _ rfl masks

theorem hasNamesakes_of_mem {name : String} (member : ⟨[.key "objects"], .uniqueNames name⟩ ∈ vs) :
    HasNamesakes v := by
  obtain own | part := explains.sound _ member
  · cases own
  generalize same : (⟨[.key "objects"], .uniqueNames name⟩ : Violation) = x at part
  cases part with
  | missing _ _ => cases same
  | unknown _ _ => cases same
  | @required fields k u y _ there offends =>
    obtain ⟨path, rule⟩ := Violation.mk.inj same
    obtain ⟨key, here⟩ := List.cons.inj path
    obtain rfl := LooseText.proper.inj (Segment.key.inj key)
    have proper := keys_proper_of_mem explains rfl member (List.cons_ne_nil _ _)
    obtain ⟨_, _⟩ := y
    cases here
    cases rule
    rcases offends with offends | ⟨nothing, repeats⟩
    · rcases offends with own | part
      · obtain ⟨breaks⟩ := own
        cases breaks
      · cases part
    · obtain ⟨first⟩ := repeats
      obtain ⟨bound, os, forms⟩ := (SceneObject.nothing_offends_iff _).mp nothing
      rw [SceneObject.forms_itemNames forms] at first
      exact .intro proper there bound forms first.not_nodup
  | optional declared _ _ _ => cases declared

theorem mem_of_hasNamesakes (h : HasNamesakes v) :
    ∃ name, ⟨[.key "objects"], .uniqueNames name⟩ ∈ vs := by
  obtain ⟨proper, there, bound, forms, shared⟩ := h
  obtain ⟨name, first⟩ := exists_isFirstRepeated shared
  rw [← SceneObject.forms_itemNames forms] at first
  have offends : Scene.schema.Offends _ ⟨[.key "objects"], .uniqueNames name⟩ :=
    .inr (.required (x := ⟨[], .uniqueNames name⟩) (by decide) there
      (.inr ⟨(SceneObject.nothing_offends_iff _).mpr ⟨bound, _, forms⟩, .intro first⟩))
  rcases explains.complete _ offends with member | ⟨⟨path, rule⟩, member, masks, g, rest, same⟩
  · exact ⟨name, member⟩
  have here : path = [] := by
    cases path with
    | nil => rfl
    | cons first path => exact absurd (List.cons.inj same).2 (List.append_ne_nil_of_right_ne_nil _
        (List.cons_ne_nil g rest)).symm
  subst here
  rcases explains.sound _ member with own | part
  · obtain ⟨breaks⟩ := own
    cases breaks with
    | notObject other => exact absurd rfl (other _)
    | brokenKey there broken => cases (proper _ there).symm.trans broken
  · cases part

end Scene

/-- The violations of a rejected value are exactly the places where it offends, but for masked ones.
Namesakes are reported if nothing else is wrong with the objects. Each place is reported once, and
they come in the order of the schema. -/
theorem Scene.check_reports {v : Json} (distinct : v.HasDistinctKeys) {vs : List Violation}
    (rejected : Scene.check v = .error vs) :
    (∀ x, x ∈ vs ↔ Scene.schema.Offends v x ∧ ¬ ∃ y ∈ vs, y.Masks x) ∧
      ((∃ name, ⟨[.key "objects"], .uniqueNames name⟩ ∈ vs) ↔ HasNamesakes v) ∧
      (vs.map Violation.path).Nodup ∧
      vs.Pairwise fun x y => Scene.schema.Precedes v x.path y.path := by
  have explains := Scene.check_explains v
  rw [rejected] at explains
  have ordered := explains.ordered distinct
  refine ⟨fun x => ?_, ?_, ?_, ?_⟩
  · constructor
    · exact fun member =>
        ⟨explains.sound x member, fun ⟨y, member', masks⟩ => explains.apart x member y member' masks⟩
    · rintro ⟨offends, unmasked⟩
      exact (explains.complete x offends).resolve_right unmasked
  · exact ⟨fun ⟨_, member⟩ => hasNamesakes_of_mem explains member, mem_of_hasNamesakes explains⟩
  · exact List.pairwise_map.mpr (ordered.imp And.right)
  · exact ordered.imp And.left

/-- Nothing right about it: fields of the wrong kind, missing ones and unknown ones. -/
def faultyScene : Json :=
  .obj [("lights", .arr []), ("extra", .null),
    ("camera_position", .obj [("x", .int 0), ("w", .int 0), ("y", .str "1")]), ("objects", .arr [])]

theorem check_reports_faultyScene :
    faultyScene.HasDistinctKeys ∧
      (∃ vs, Scene.check faultyScene = .error vs ∧
        vs.map Violation.path = [[.key "camera_position", .key "y"],
          [.key "camera_position", .key "z"], [.key "camera_position", .key "w"],
          [.key "camera_angle"], [.key "lights"], [.key "and_nets"], [.key "extra"]] ∧
        (vs.map Violation.path).Nodup) := by
  have distinct : faultyScene.HasDistinctKeys := by
    simp [faultyScene, Json.HasDistinctKeys, Json.fieldsHaveDistinctKeys,
      Json.itemsHaveDistinctKeys, Fields.keys]
  have rejected : Scene.check faultyScene = .error
      [⟨[.key "camera_position", .key "y"], .number⟩, ⟨[.key "camera_position", .key "z"], .required⟩,
        ⟨[.key "camera_position", .key "w"], .noExtra⟩, ⟨[.key "camera_angle"], .required⟩,
        ⟨[.key "lights"], .minItems 1 0⟩, ⟨[.key "and_nets"], .required⟩,
        ⟨[.key "extra"], .noExtra⟩] := by decide +kernel
  exact ⟨distinct, _, rejected, rfl, (Scene.check_reports distinct rejected).2.2.1⟩

/-- Of an object with a key that holds a surrogate nothing else is reported. -/
theorem check_broken_key :
    let v : Json := .obj [(.broken "" 0xD800 [], .null)]
    let missing : Violation := ⟨[.key "camera_position"], .required⟩
    ∃ vs, Scene.check v = .error vs ∧ Scene.schema.Offends v missing ∧ missing ∉ vs ∧
      ∀ y ∈ vs, ∀ most actual, y.rule ≠ .maxItems most actual := by
  refine ⟨[⟨[], .unicode⟩], by decide +kernel, .inr (.missing (by decide) (by decide)),
    by decide, ?_⟩
  simp

end RayScene
