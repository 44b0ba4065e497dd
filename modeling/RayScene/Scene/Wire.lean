import RayScene.Scene.Camera
import RayScene.Scene.Net

/-!
# The wire format of the renderer

Renderer input is lines of numbers without lengths: sections and groups end with the sentinel -1.
`Scene.compile` gives the content of each section, `Wire.text?` writes it, and `Scene.compileText`
does both.
-/

namespace RayScene

namespace Wire

/-- Ends a section, a net and the whole text. -/
def sentinel : Int := -1

/-- Starts the line of all nets. -/
def allNets : Int := 99

def textureIndex : Texture → Int
  | .plain => 0
  | .checker => 1
  | .striped => 2
  | .circular => 3
  | .dots => 4

/-- The number of a shape; counting starts at 1. -/
def shapeIndex : Shape → Int
  | .cube => 1
  | .plane => 2
  | .quad => 3
  | .cone => 4

def reflectionIndex : Reflection → Int
  | .matte => 0
  | .normal => 1
  | .mirror => 2

def defaultTexture : Texture := .plain

def defaultReflection : Reflection := .matte

def defaultDiffuse : Number := .int 1

def defaultHighlight : Number := .float 0.5

def vector (v : Vec3) : List Number := [v.x, v.y, v.z]

/-- An object with its defaults filled in. -/
structure Record where
  texture : Texture
  shape : Shape
  reflection : Reflection
  param : Vec3
  position : Vec3
  direction : Number
  diffuse : Number
  highlight : Number
  color : Color
  rotation : Option Vec3
deriving DecidableEq

def Record.ofObject (o : SceneObject) : Record where
  texture := o.texture.getD defaultTexture
  shape := o.shape
  reflection := o.reflection.getD defaultReflection
  param := o.param
  position := o.position
  direction := o.direction
  diffuse := o.diffuse.getD defaultDiffuse
  highlight := o.highlight.getD defaultHighlight
  color := o.color
  rotation := o.rotation

/-- The line of a record: 16 numbers, and 3 more if the fourth one is 1. -/
def Record.line (r : Record) : List Number :=
  [.int (textureIndex r.texture), .int (shapeIndex r.shape), .int (reflectionIndex r.reflection),
    .int (if r.rotation.isSome then 1 else 0)] ++
  vector r.param ++ vector r.position ++ [r.direction, r.diffuse, r.highlight] ++
  [r.color.red, r.color.green, r.color.blue] ++
  match r.rotation with
  | some v => vector v
  | none => []

/-- A line of numbers, if each of them has a token. -/
def lineText? (numbers : List Number) : Option String :=
  (numbers.mapM Number.token?).map (String.intercalate " ")

inductive Line where
  | numbers (numbers : List Number)
  /-- places and counts: no list is so long that one of them could not be written -/
  | indices (indices : List Int)
deriving DecidableEq

def Line.text? : Line → Option String
  | .numbers values => lineText? values
  | .indices values => some (String.intercalate " " (values.map toString))

end Wire

/-- A scene as the renderer takes it. -/
structure Wire where
  camera : Float × Float × Float
  angles : Angles
  lights : List Light
  records : List Wire.Record
  nets : List (List Int)
deriving DecidableEq

namespace Wire

def lightLine (l : Light) : List Number := [l.angles.pitch, l.angles.yaw, l.intensity]

def netLine (net : List Int) : List Int := net ++ [sentinel]

/-- The line of all nets: their indices from 0 on. -/
def allNetsLine (count : Nat) : List Int :=
  allNets :: (List.range count).map Int.ofNat ++ [sentinel]

/-- A section with its end. -/
def closed (lines : List Line) : List Line := lines ++ [.indices [sentinel]]

def lines (w : Wire) : List Line :=
  [.numbers [.float w.camera.1, .float w.camera.2.1, .float w.camera.2.2],
    .numbers [w.angles.pitch, w.angles.yaw], .indices [w.lights.length]] ++
  w.lights.map (fun l => .numbers (lightLine l)) ++
  closed (w.records.map fun r => .numbers r.line) ++
  closed (w.nets.map fun net => .indices (netLine net)) ++
  [.indices (allNetsLine w.nets.length), .indices [sentinel]]

/-- The whole text, if each line can be written; each ends with a line feed. -/
def text? (w : Wire) : Option String :=
  (w.lines.mapM Line.text?).map fun lines => String.intercalate "\n" lines ++ "\n"

end Wire

/-- What a scene must keep to for the renderer, beyond the schema. -/
inductive Precondition where
  | objectCount
  | oneLight
deriving DecidableEq

def Precondition.message : Precondition → String
  | objectCount => "too many objects"
  | oneLight => "exactly one light is required"

inductive CompileError where
  | precondition (p : Precondition)
  | unresolved (u : Net.Unresolved)
  | camera (f : Camera.Failure)
  /-- a number has no token -/
  | unwritable
deriving DecidableEq

namespace Scene

def brokenPrecondition? (s : Scene) : Option Precondition :=
  if maxObjects < s.objects.length then some .objectCount
  else if s.lights.length ≠ requiredLights then some .oneLight
  else none

def compile (trig : Trig) (s : Scene) : Except CompileError Wire := do
  if let some p := s.brokenPrecondition? then throw (.precondition p)
  let nets ← (Net.resolve s).mapError .unresolved
  let camera ← (Camera.position trig s).mapError .camera
  return {
    camera
    angles := s.cameraAngles
    lights := s.lights
    records := s.objects.map Wire.Record.ofObject
    nets := Net.complete (nets.map fun net => net.map Int.ofNat) s.objects.length }

def compileText (trig : Trig) (s : Scene) : Except CompileError String := do
  match (← s.compile trig).text? with
  | some text => return text
  | none => throw .unwritable

end Scene

end RayScene
