import RayScene.Proofs.Scene.Decides

/-!
# The language of scenes

Which JSON values spell a scene, and which scene (`Scene.form`): the keys of each object, the range
of each number, the names of each choice and the size of each list. The check reads exactly this
language (`Scene.check_iff`).
-/

namespace RayScene

open Form

@[mk_iff]
structure Vec3.Fits (fields : Fields) (v : Vec3) : Prop where
  x : Field AnyNumber "x" fields v.x
  y : Field AnyNumber "y" fields v.y
  z : Field AnyNumber "z" fields v.z

def Vec3.form : Form Vec3 := Object ["x", "y", "z"] Vec3.Fits

@[mk_iff]
structure Angles.Fits (fields : Fields) (d : Angles) : Prop where
  pitch : Field (NumberIn (-90) 90) "a" fields d.pitch
  yaw : Field (NumberIn (-180) 180) "b" fields d.yaw

def Angles.form : Form Angles := Object ["a", "b"] Angles.Fits

@[mk_iff]
structure Color.Fits (fields : Fields) (c : Color) : Prop where
  red : Field (NumberIn 0 255) "r" fields c.red
  green : Field (NumberIn 0 255) "g" fields c.green
  blue : Field (NumberIn 0 255) "b" fields c.blue

def Color.form : Form Color := Object ["r", "g", "b"] Color.Fits

@[mk_iff]
structure Light.Fits (fields : Fields) (l : Light) : Prop where
  angles : Field Angles.form "angle" fields l.angles
  intensity : Field (NumberIn 0 255) "intensity" fields l.intensity

def Light.form : Form Light := Object ["angle", "intensity"] Light.Fits

def Shape.form : Form Shape :=
  OneOf [("Cube", .cube), ("Plane", .plane), ("Quad", .quad), ("Cone", .cone)]

def Texture.form : Form Texture :=
  OneOf [("Plain", .plain), ("Checker", .checker), ("Striped", .striped), ("Circular", .circular),
    ("Dots", .dots)]

def Reflection.form : Form Reflection :=
  OneOf [("Matte", .matte), ("Normal", .normal), ("Mirror", .mirror)]

/-- The fields of an object: six that it has, and five that it may have. -/
@[mk_iff]
structure SceneObject.Fits (fields : Fields) (o : SceneObject) : Prop where
  name : Field Name "name" fields o.name
  shape : Field Shape.form "shape" fields o.shape
  param : Field Vec3.form "param" fields o.param
  position : Field Vec3.form "position" fields o.position
  direction : Field AnyNumber "direction" fields o.direction
  color : Field Color.form "color" fields o.color
  texture : OptionalField Texture.form "texture" fields o.texture
  reflection : OptionalField Reflection.form "reflect_type" fields o.reflection
  rotation : OptionalField Vec3.form "rotation" fields o.rotation
  diffuse : OptionalField (NumberIn 0 1) "diffuse" fields o.diffuse
  highlight : OptionalField (NumberIn 0 255) "highlight" fields o.highlight

def SceneObject.form : Form SceneObject :=
  Object ["name", "shape", "param", "position", "direction", "color", "texture", "reflect_type",
    "rotation", "diffuse", "highlight"] SceneObject.Fits

def Light.listForm : Form (List Light) := fun v ls => Items Light.form v ls ∧ ls.length = 1

/-- Up to 60 objects with different names. -/
def SceneObject.listForm : Form (List SceneObject) := fun v os =>
  Items SceneObject.form v os ∧ os.length ≤ 60 ∧ (os.map SceneObject.name).Nodup

@[mk_iff]
structure Scene.Fits (fields : Fields) (s : Scene) : Prop where
  cameraPosition : Field Vec3.form "camera_position" fields s.cameraPosition
  cameraAngles : Field Angles.form "camera_angle" fields s.cameraAngles
  lights : Field Light.listForm "lights" fields s.lights
  objects : Field SceneObject.listForm "objects" fields s.objects
  nets : Field (Items (Items Text)) "and_nets" fields s.nets

def Scene.form : Form Scene :=
  Object ["camera_position", "camera_angle", "lights", "objects", "and_nets"] Scene.Fits

/-! ### The checks -/

section
variable (order : Check.Order) (v : Json)

open Collected (DecidesParts)

theorem Vec3.checkIn_decides : (Vec3.checkIn order v).Decides (Vec3.form v) := by
  refine Check.closedObject_decides (fun fields => ?_) _ _ _ v
  have number := Check.required_decides Check.anyNumber_decides fields
  refine (DecidesParts.pure Vec3.mk |>.app (number "x") |>.app (number "y")
    |>.app (number "z")).decides (fun v => ((((), v.x), v.y), v.z)) (fun _ => rfl) fun _ => ?_
  simp only [Vec3.fits_iff, true_and, and_assoc]

theorem Angles.checkIn_decides : (Angles.checkIn order v).Decides (Angles.form v) := by
  refine Check.closedObject_decides (fun fields => ?_) _ _ _ v
  refine (DecidesParts.pure Angles.mk
    |>.app (Check.required_decides (Check.numberIn_decides (-90) 90) fields "a")
    |>.app (Check.required_decides (Check.numberIn_decides (-180) 180) fields "b")).decides
      (fun d => (((), d.pitch), d.yaw)) (fun _ => rfl) fun _ => ?_
  simp only [Angles.fits_iff, true_and]

theorem Color.checkIn_decides : (Color.checkIn order v).Decides (Color.form v) := by
  refine Check.closedObject_decides (fun fields => ?_) _ _ _ v
  have component := Check.required_decides (Check.numberIn_decides 0 255) fields
  refine (DecidesParts.pure Color.mk |>.app (component "r") |>.app (component "g")
    |>.app (component "b")).decides (fun c => ((((), c.red), c.green), c.blue)) (fun _ => rfl)
      fun _ => ?_
  simp only [Color.fits_iff, true_and, and_assoc]

theorem Light.checkIn_decides : (Light.checkIn order v).Decides (Light.form v) := by
  refine Check.closedObject_decides (fun fields => ?_) _ _ _ v
  refine (DecidesParts.pure Light.mk
    |>.app (Check.required_decides (Angles.checkIn_decides order) fields "angle")
    |>.app (Check.required_decides (Check.numberIn_decides 0 255) fields "intensity")).decides
      (fun l => (((), l.angles), l.intensity)) (fun _ => rfl) fun _ => ?_
  simp only [Light.fits_iff, true_and]

theorem Shape.check_decides : (Check.choice Shape v).Decides (Shape.form v) :=
  Check.choice_decides Shape rfl (by decide) v

theorem Texture.check_decides : (Check.choice Texture v).Decides (Texture.form v) :=
  Check.choice_decides Texture rfl (by decide) v

theorem Reflection.check_decides : (Check.choice Reflection v).Decides (Reflection.form v) :=
  Check.choice_decides Reflection rfl (by decide) v

theorem SceneObject.checkIn_decides :
    (SceneObject.checkIn order v).Decides (SceneObject.form v) := by
  refine Check.closedObject_decides (fun fields => ?_) _ _ _ v
  have vector := Check.required_decides (Vec3.checkIn_decides order) fields
  refine (DecidesParts.pure SceneObject.mk
    |>.app (Check.required_decides Check.nonEmptyString_decides fields "name")
    |>.app (Check.required_decides Shape.check_decides fields "shape")
    |>.app (vector "param")
    |>.app (vector "position")
    |>.app (Check.required_decides Check.anyNumber_decides fields "direction")
    |>.app (Check.required_decides (Color.checkIn_decides order) fields "color")
    |>.app (Check.optional_decides Texture.check_decides fields "texture")
    |>.app (Check.optional_decides Reflection.check_decides fields "reflect_type")
    |>.app (Check.optional_decides (Vec3.checkIn_decides order) fields "rotation")
    |>.app (Check.optional_decides (Check.numberIn_decides 0 1) fields "diffuse")
    |>.app (Check.optional_decides (Check.numberIn_decides 0 255) fields "highlight")).decides
      (fun o => ((((((((((((), o.name), o.shape), o.param), o.position), o.direction), o.color),
        o.texture), o.reflection), o.rotation), o.diffuse), o.highlight)) (fun _ => rfl) fun _ => ?_
  simp only [SceneObject.fits_iff, true_and, and_assoc]

theorem SceneObject.firstRepeated_eq_none_iff (seen : List String) (os : List SceneObject) :
    firstRepeated seen os = none ↔
      (os.map SceneObject.name).Nodup ∧ ∀ o ∈ os, o.name ∉ seen := by
  induction os generalizing seen with
  | nil => exact ⟨fun _ => ⟨List.nodup_nil, fun _ h => absurd h List.not_mem_nil⟩, fun _ => rfl⟩
  | cons o rest ih =>
    rw [firstRepeated, List.map_cons, List.nodup_cons, List.forall_mem_cons]
    split
    · rename_i isSeen
      constructor
      · intro wrong
        cases wrong
      · rintro ⟨_, fresh, _⟩
        exact absurd (List.contains_iff_mem.mp isSeen) fresh
    · rename_i notSeen
      rw [ih]
      constructor
      · rintro ⟨distinct, fresh⟩
        refine ⟨⟨fun again => ?_, distinct⟩, fun isSeen => ?_, fun o' member isSeen => ?_⟩
        · obtain ⟨o', member, same⟩ := List.mem_map.mp again
          exact fresh o' member (same ▸ List.mem_cons_self)
        · exact notSeen (List.contains_iff_mem.mpr isSeen)
        · exact fresh o' member (List.mem_cons_of_mem _ isSeen)
      · rintro ⟨⟨notAgain, distinct⟩, _, fresh⟩
        refine ⟨distinct, fun o' member isSeen => ?_⟩
        rcases List.mem_cons.mp isSeen with same | isSeen
        · exact notAgain (same ▸ List.mem_map_of_mem member)
        · exact fresh o' member isSeen

theorem SceneObject.checkAllIn_decides :
    (SceneObject.checkAllIn order v).Decides (SceneObject.listForm v) := by
  unfold checkAllIn
  refine ((Check.boundedList_decides (SceneObject.checkIn_decides order) 0 maxObjects v).bind
    (Q := fun os os' => (os.map SceneObject.name).Nodup ∧ os = os') fun os _ => ?_).congr ?_
  · have distinct := firstRepeated_eq_none_iff [] os
    split
    · rename_i repeated
      refine .error (List.cons_ne_nil _ _) fun os' h => ?_
      cases repeated.symm.trans (distinct.mpr ⟨h.1, fun _ _ => List.not_mem_nil⟩)
    · rename_i fresh
      exact .ok fun os' => and_iff_right (distinct.mp fresh).1
  intro os
  constructor
  · rintro ⟨_, ⟨items, _, bound⟩, distinct, rfl⟩
    exact ⟨items, bound, distinct⟩
  · rintro ⟨items, bound, distinct⟩
    exact ⟨os, ⟨items, Nat.zero_le _, bound⟩, distinct, rfl⟩

theorem Scene.checkIn_decides : (Scene.checkIn order v).Decides (Scene.form v) := by
  refine Check.closedObject_decides (fun fields => ?_) _ _ _ v
  have lights := fun v => (Check.boundedList_decides (Light.checkIn_decides order) requiredLights
    requiredLights v).congr (Q := Light.listForm v) fun ls =>
      and_congr_right fun _ => le_antisymm_iff.symm.trans eq_comm
  have nets := Check.list_decides (Check.list_decides Check.string_decides)
  refine (DecidesParts.pure Scene.mk
    |>.app (Check.required_decides (Vec3.checkIn_decides order) fields "camera_position")
    |>.app (Check.required_decides (Angles.checkIn_decides order) fields "camera_angle")
    |>.app (Check.required_decides lights fields "lights")
    |>.app (Check.required_decides (SceneObject.checkAllIn_decides order) fields "objects")
    |>.app (Check.required_decides nets fields "and_nets")).decides
      (fun s => ((((((), s.cameraPosition), s.cameraAngles), s.lights), s.objects), s.nets))
      (fun _ => rfl) fun _ => ?_
  simp only [Scene.fits_iff, true_and, and_assoc]

theorem Scene.check_decides : (Scene.check v).Decides (Scene.form v) :=
  Scene.checkIn_decides .unknownLast v

end

/-- A value is accepted if and only if it spells a scene, and then as that scene. Every other value
has at least one violation. -/
theorem Scene.check_iff (v : Json) :
    (∀ s, Scene.check v = .ok s ↔ Scene.form v s) ∧
      ((∀ s, ¬ Scene.form v s) → ∃ vs, Scene.check v = .error vs ∧ vs ≠ []) := by
  have decides := Scene.check_decides v
  refine ⟨decides.ok_iff, fun nothing => ?_⟩
  cases result : Scene.check v with
  | ok s => exact absurd ((decides.ok_iff s).mp result) (nothing s)
  | error vs =>
    refine ⟨vs, rfl, ?_⟩
    rintro rfl
    exact decides.complains result

def cubeNamed (name : LooseText) : Json :=
  let zero : Json := .obj [("x", .int 0), ("y", .int 0), ("z", .int 0)]
  .obj [("camera_position", zero), ("camera_angle", .obj [("a", .int 0), ("b", .int 0)]),
    ("lights", .arr [.obj [("angle", .obj [("a", .int 0), ("b", .int 0)]), ("intensity", .int 0)]]),
    ("objects", .arr [.obj [("name", .str name), ("shape", .str "Cube"), ("param", zero),
      ("position", zero), ("direction", .int 1),
      ("color", .obj [("r", .int 0), ("g", .int 0), ("b", .int 0)])]]),
    ("and_nets", .arr [])]

/-- A surrogate by itself is a string with a character, but no name. -/
theorem check_cubeNamed_surrogate :
    (Scene.check (cubeNamed "a")).isOk = true ∧
      LooseText.isEmpty (.broken "" 0xD800 []) = false ∧
      Scene.check (cubeNamed (.broken "" 0xD800 [])) =
        .error [⟨[.key "objects", .index 0, .key "name"], .unicode⟩] := by
  refine ⟨?_, rfl, ?_⟩
  · decide +kernel
  · decide +kernel

end RayScene
