import RayScene.Number.Basic
import RayScene.Text.Loose

/-!
# Scenes

A scene has a camera, lights, named objects and nets. A net lists object names and combines the
objects that it names.
-/

namespace RayScene

/-- A point, a size or a rotation. -/
structure Vec3 where
  x : Number
  y : Number
  z : Number
deriving DecidableEq

/-- A direction of view in degrees; both angles 0 look along +z. -/
structure Angles where
  /-- positive looks down -/
  pitch : Number
  /-- 90 faces +x -/
  yaw : Number
deriving DecidableEq

/-- A colour with components from 0 to 255. -/
structure Color where
  red : Number
  green : Number
  blue : Number
deriving DecidableEq

/-- A light at infinite distance. -/
structure Light where
  angles : Angles
  intensity : Number
deriving DecidableEq

inductive Shape where
  | cube
  | plane
  | quad
  | cone
deriving DecidableEq

inductive Texture where
  | plain
  | checker
  | striped
  | circular
  | dots
deriving DecidableEq

inductive Reflection where
  | matte
  | normal
  | mirror
deriving DecidableEq

/-- A named object. What it leaves out has a default on the wire. -/
structure SceneObject where
  /-- Every scene that is read has names without surrogates, since the check refuses others. So a
  name is a text of characters, unlike the names in nets, which nothing is asked of. A scene that is
  put together without the check could have other names; there is none of that kind here. -/
  name : String
  shape : Shape
  /-- sizes, a normal vector or coefficients, as the shape has it -/
  param : Vec3
  position : Vec3
  /-- 1 intersects, -1 subtracts -/
  direction : Number
  color : Color
  texture : Option Texture
  reflection : Option Reflection
  rotation : Option Vec3
  diffuse : Option Number
  highlight : Option Number
deriving DecidableEq

/-- A scene as its author wrote it. The names in its nets may be any text. -/
structure Scene where
  cameraPosition : Vec3
  cameraAngles : Angles
  lights : List Light
  objects : List SceneObject
  nets : List (List LooseText)
deriving DecidableEq

def maxObjects : Nat := 60

def requiredLights : Nat := 1

class Named (α : Type) where
  /-- all choices, in order of declaration -/
  all : List α
  name : α → String

namespace Named

/-- The choice with this name; case matters. -/
def ofName? {α : Type} [Named α] (s : String) : Option α :=
  (all (α := α)).find? fun a => name a == s

def names (α : Type) [Named α] : List String := (all (α := α)).map name

end Named

instance : Named Shape where
  all := [.cube, .plane, .quad, .cone]
  name
    | .cube => "Cube"
    | .plane => "Plane"
    | .quad => "Quad"
    | .cone => "Cone"

instance : Named Texture where
  all := [.plain, .checker, .striped, .circular, .dots]
  name
    | .plain => "Plain"
    | .checker => "Checker"
    | .striped => "Striped"
    | .circular => "Circular"
    | .dots => "Dots"

instance : Named Reflection where
  all := [.matte, .normal, .mirror]
  name
    | .matte => "Matte"
    | .normal => "Normal"
    | .mirror => "Mirror"

end RayScene
