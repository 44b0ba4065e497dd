import RayScene.Scene.Source

/-!
# Example scenes

Scenes that the model is shown before it writes its own, each with a prompt that it answers.
-/

namespace RayScene

structure Example where
  name : String
  prompt : String
  scene : Scene

namespace Example

def whole (n : Int) : Number := .float (Double.ofInt n)

def tenths (n : Nat) : Number := .float (Decimal.toFloat ⟨false, n, -1⟩)

def vector (x y z : Int) : Vec3 := ⟨whole x, whole y, whole z⟩

def angles (pitch yaw : Int) : Angles := ⟨whole pitch, whole yaw⟩

def color (red green blue : Int) : Color := ⟨whole red, whole green, whole blue⟩

def object (name : String) (shape : Shape) (param position : Vec3) (direction : Int)
    (color : Color) : SceneObject :=
  ⟨name, shape, param, position, whole direction, color, none, none, none, none, none⟩

def ball : Example where
  name := "ball"
  prompt := "A red ball on a checkered floor"
  scene := {
    cameraPosition := vector 0 0 (-150)
    cameraAngles := angles 0 0
    lights := [⟨angles 30 20, whole 255⟩]
    objects := [
      { object "floor" .plane (vector 0 1 0) (vector 0 (-40) 0) 1 (color 255 255 255) with
        texture := some .checker },
      { object "ball" .quad (vector 40 40 40) (vector 0 0 50) 1 (color 255 40 40) with
        reflection := some .normal
        highlight := some (whole 200) }]
    nets := [] }

/-- A sphere with a smaller sphere and its upper half taken away. -/
def bowl : Example where
  name := "bowl"
  prompt := "A mirror bowl"
  scene := {
    cameraPosition := vector 0 60 (-150)
    cameraAngles := angles 20 0
    lights := [⟨angles 45 (-30), whole 230⟩]
    objects := [
      { object "outer" .quad (vector 50 50 50) (vector 0 0 60) 1 (color 200 200 220) with
        reflection := some .mirror
        diffuse := some (tenths 6) },
      object "inner" .quad (vector 45 45 45) (vector 0 0 60) (-1) (color 200 200 220),
      object "lid" .plane (vector 0 1 0) (vector 0 0 0) (-1) (color 200 200 220),
      { object "table" .cube (vector 300 10 300) (vector 0 (-60) 60) 1 (color 120 80 40) with
        texture := some .striped }]
    nets := [["outer", "inner", "lid"]] }

/-- An infinite cylinder that a box cuts off. -/
def pillar : Example where
  name := "pillar"
  prompt := "A tilted striped pillar"
  scene := {
    cameraPosition := vector (-80) 20 (-120)
    cameraAngles := angles 5 30
    lights := [⟨angles 60 0, whole 255⟩]
    objects := [
      { object "shaft" .quad (vector 15 0 15) (vector 0 0 50) 1 (color 240 240 200) with
        texture := some .striped
        rotation := some (vector 0 0 15) },
      object "clip" .cube (vector 100 80 100) (vector 0 0 50) 1 (color 240 240 200)]
    nets := [["shaft", "clip"]] }

def all : List Example := [ball, bowl, pillar]

def find? (name : String) : Option Example := all.find? fun e => e.name == name

def toJson (e : Example) : Json :=
  .obj [("name", .str e.name), ("prompt", .str e.prompt), ("scene", e.scene.toJson)]

def text (e : Example) : String :=
  "Example `" ++ e.name ++ "` (" ++ e.prompt ++ "):\n" ++ e.scene.toJson.inline .loose

def allTexts : String := String.intercalate "\n\n" (all.map text)

end Example

end RayScene
