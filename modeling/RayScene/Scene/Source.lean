import RayScene.Json.Writer
import RayScene.Scene.Schema

/-!
# Scene sources

The JSON form of a scene (`Scene.toJson`), its stored text (`Scene.source`), and the way back from
texts (`Scene.ofText`). Absent options are left out of a source.

Texts are read by a library that comes in editions. They differ in how unknown keys are reported and
in how long a negative number may be.
-/

namespace RayScene

def Number.toJson : Number → Json
  | int n => .int n
  | bool b => .bool b
  | float x => .float x

def Vec3.toJson (v : Vec3) : Json :=
  .obj [("x", v.x.toJson), ("y", v.y.toJson), ("z", v.z.toJson)]

def Angles.toJson (d : Angles) : Json := .obj [("a", d.pitch.toJson), ("b", d.yaw.toJson)]

def Color.toJson (c : Color) : Json :=
  .obj [("r", c.red.toJson), ("g", c.green.toJson), ("b", c.blue.toJson)]

def Light.toJson (l : Light) : Json :=
  .obj [("angle", l.angles.toJson), ("intensity", l.intensity.toJson)]

def Named.toJson {α : Type} [Named α] (a : α) : Json := .str (Named.name a)

/-- A field that is left out if there is no value. -/
def optionalField {α : Type} (key : String) (toJson : α → Json) : Option α → Fields
  | some a => [(key, toJson a)]
  | none => []

def SceneObject.toJson (o : SceneObject) : Json :=
  let required : Fields :=
    [("name", .str o.name), ("shape", Named.toJson o.shape), ("param", o.param.toJson),
      ("position", o.position.toJson), ("direction", o.direction.toJson), ("color", o.color.toJson)]
  .obj (required ++
    optionalField "texture" Named.toJson o.texture ++
    optionalField "reflect_type" Named.toJson o.reflection ++
    optionalField "rotation" Vec3.toJson o.rotation ++
    optionalField "diffuse" Number.toJson o.diffuse ++
    optionalField "highlight" Number.toJson o.highlight)

structure Edition where
  order : Check.Order
  /-- whether an unknown key is reported as often as the text has it -/
  repeats : Bool
  /-- whether the minus sign of a number counts for a digit -/
  countsSign : Bool
deriving DecidableEq

namespace Edition

def earlier : Edition := ⟨.unknownLast, false, false⟩

def later : Edition := ⟨.unknownFirst, true, true⟩

/-- The value that is checked for what a text spells. -/
def checked (e : Edition) (v : Json) : Json := if e.repeats then v else v.once

end Edition

namespace Scene

def toJson (s : Scene) : Json :=
  .obj [("camera_position", s.cameraPosition.toJson), ("camera_angle", s.cameraAngles.toJson),
    ("lights", .arr (s.lights.map Light.toJson)),
    ("objects", .arr (s.objects.map SceneObject.toJson)),
    ("and_nets", .arr (s.nets.map fun net => .arr (net.map .str)))]

def source (s : Scene) : String := s.toJson.indented

/-- Whether a scene can be stored: files cannot hold the surrogates that its nets may name. -/
def isStorable (s : Scene) : Bool := s.nets.all fun net => net.all LooseText.isProper

/-- Reads the text of a scene; only proper text is JSON. -/
def ofText (e : Edition) : LooseText → Checked Scene
  | .proper text =>
    match Json.parse (Json.textLimits e.countsSign) text with
    | .ok v => checkIn e.order (e.checked v)
    | .error error => .fail (.json error)
  | .broken .. => .fail .unicode

end Scene

end RayScene
