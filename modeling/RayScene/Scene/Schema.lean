import RayScene.Scene.Check

/-!
# The scene schema

Which JSON values are scenes. Fields are checked in order of declaration, depth first. The unknown
fields of an object are reported before or after its known ones; `Scene.check` reports them after.
-/

namespace RayScene

namespace Vec3

def keys : List String := ["x", "y", "z"]

def checkIn (order : Check.Order) : Json → Checked Vec3 :=
  Check.closedObject order .vec3 keys fun fields =>
    Collected.pure Vec3.mk
      |>.app (Check.required fields "x" Check.anyNumber)
      |>.app (Check.required fields "y" Check.anyNumber)
      |>.app (Check.required fields "z" Check.anyNumber)

end Vec3

namespace Angles

def keys : List String := ["a", "b"]

def checkIn (order : Check.Order) : Json → Checked Angles :=
  Check.closedObject order .angles keys fun fields =>
    Collected.pure Angles.mk
      |>.app (Check.required fields "a" (Check.numberIn (-90) 90))
      |>.app (Check.required fields "b" (Check.numberIn (-180) 180))

end Angles

namespace Color

def keys : List String := ["r", "g", "b"]

def checkIn (order : Check.Order) : Json → Checked Color :=
  Check.closedObject order .color keys fun fields =>
    Collected.pure Color.mk
      |>.app (Check.required fields "r" (Check.numberIn 0 255))
      |>.app (Check.required fields "g" (Check.numberIn 0 255))
      |>.app (Check.required fields "b" (Check.numberIn 0 255))

end Color

namespace Light

def keys : List String := ["angle", "intensity"]

def checkIn (order : Check.Order) : Json → Checked Light :=
  Check.closedObject order .light keys fun fields =>
    Collected.pure Light.mk
      |>.app (Check.required fields "angle" (Angles.checkIn order))
      |>.app (Check.required fields "intensity" (Check.numberIn 0 255))

end Light

namespace SceneObject

def keys : List String :=
  ["name", "shape", "param", "position", "direction", "color", "texture", "reflect_type",
    "rotation", "diffuse", "highlight"]

def checkIn (order : Check.Order) : Json → Checked SceneObject :=
  Check.closedObject order .sceneObject keys fun fields =>
    Collected.pure SceneObject.mk
      |>.app (Check.required fields "name" Check.nonEmptyString)
      |>.app (Check.required fields "shape" (Check.choice Shape))
      |>.app (Check.required fields "param" (Vec3.checkIn order))
      |>.app (Check.required fields "position" (Vec3.checkIn order))
      |>.app (Check.required fields "direction" Check.anyNumber)
      |>.app (Check.required fields "color" (Color.checkIn order))
      |>.app (Check.optional fields "texture" (Check.choice Texture))
      |>.app (Check.optional fields "reflect_type" (Check.choice Reflection))
      |>.app (Check.optional fields "rotation" (Vec3.checkIn order))
      |>.app (Check.optional fields "diffuse" (Check.numberIn 0 1))
      |>.app (Check.optional fields "highlight" (Check.numberIn 0 255))

/-- The first name that an earlier object has already, `seen` being the names so far. -/
def firstRepeated (seen : List String) : List SceneObject → Option String
  | [] => none
  | o :: rest => if seen.contains o.name then some o.name else firstRepeated (o.name :: seen) rest

/-- Reads the objects of a scene. Names are compared only if nothing else is wrong. -/
def checkAllIn (order : Check.Order) (v : Json) : Checked (List SceneObject) := do
  let objects ← Check.boundedList 0 maxObjects (checkIn order) v
  match firstRepeated [] objects with
  | some name => .fail (.uniqueNames name)
  | none => return objects

end SceneObject

namespace Scene

def keys : List String := ["camera_position", "camera_angle", "lights", "objects", "and_nets"]

def checkIn (order : Check.Order) : Json → Checked Scene :=
  Check.closedObject order .scene keys fun fields =>
    Collected.pure Scene.mk
      |>.app (Check.required fields "camera_position" (Vec3.checkIn order))
      |>.app (Check.required fields "camera_angle" (Angles.checkIn order))
      |>.app (Check.required fields "lights"
        (Check.boundedList requiredLights requiredLights (Light.checkIn order)))
      |>.app (Check.required fields "objects" (SceneObject.checkAllIn order))
      |>.app (Check.required fields "and_nets" (Check.list (Check.list Check.string)))

/-- Reads a value that was no text. -/
def check : Json → Checked Scene := checkIn .unknownLast

end Scene

end RayScene
