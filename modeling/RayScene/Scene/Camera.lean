import RayScene.Scene.Basic

/-!
# The camera on the wire

The renderer takes the point 200 units ahead of the viewpoint. The angles are in degrees; sine and
cosine are given from outside.
-/

namespace RayScene

/-- Sine and cosine of radians. -/
structure Trig where
  sin : Float → Float
  cos : Float → Float

/-- The functions of the platform. -/
def Trig.platform : Trig := ⟨Float.sin, Float.cos⟩

namespace Camera

inductive Failure where
  | overflow
  | infiniteAngle
deriving DecidableEq

def Failure.message : Failure → String
  | overflow => "int too large to convert to float"
  | infiniteAngle => "math domain error"

/-- How far ahead of the viewpoint the wire position is. -/
def offset : Nat := 200

def degree : Float := 3.141592653589793 / 180.0

def float (n : Number) : Except Failure Float :=
  match n.toFloat? with
  | some x => .ok x
  | none => .error .overflow

/-- A coordinate moved by the offset along a component of the direction. -/
def ahead (coordinate : Number) (component : Float) : Except Failure Float := do
  let start ← float coordinate
  return start + Double.ofInt offset * component

/-- The position on the wire. -/
def position (trig : Trig) (s : Scene) : Except Failure (Float × Float × Float) := do
  let pitch := (← float s.cameraAngles.pitch) * degree
  let yaw := (← float s.cameraAngles.yaw) * degree
  if Double.isInfinite pitch || Double.isInfinite yaw then throw .infiniteAngle
  let x ← ahead s.cameraPosition.x (trig.cos pitch * trig.sin yaw)
  let y ← ahead s.cameraPosition.y (-trig.sin pitch)
  let z ← ahead s.cameraPosition.z (trig.cos pitch * trig.cos yaw)
  return (x, y, z)

end Camera

end RayScene
