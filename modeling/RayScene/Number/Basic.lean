import RayScene.Number.Style
import RayScene.Text.Integer

/-!
# Numbers of a scene

A number keeps the kind it was given in. Its token on the wire is the shortest text of its value:
an integral float below 10^16 in magnitude is written like the integer that it equals. Integers with
more digits than are written have no token.
-/

namespace RayScene

/-- A number as given: an integer of any size, a truth value that stands for 0 or 1, or a float. -/
inductive Number where
  | int (n : Int)
  | bool (b : Bool)
  | float (x : Float)
deriving DecidableEq

namespace Number

/-- Integral floats from this magnitude on keep their exponent. -/
def integralLimit : Nat := 10000000000000000

def floatToken (x : Float) : String :=
  match Double.toInt? x with
  | some n => if n.natAbs < integralLimit then toString n else FloatStyle.plain.write x
  | none => FloatStyle.plain.write x

def token? : Number → Option String
  | int n => Text.writeInteger? n
  | bool b => some (if b then "1" else "0")
  | float x => some (floatToken x)

/-- The number as a float, unless it is an integer beyond the floats. -/
def toFloat? : Number → Option Float
  | int n =>
    let x := Double.ofInt n
    if Double.isFinite x then some x else none
  | bool b => some (Double.ofInt (if b then 1 else 0))
  | float x => some x

/-- Whether the number is greater than `n`, compared exactly; NaN is greater than nothing. -/
def exceeds : Number → Int → Bool
  | int k, n => n < k
  | bool b, n => n < (if b then 1 else 0)
  | float x, n =>
    if Double.isFinite x then Double.compareInt x n == .gt
    else Double.isInfinite x && !Double.isNegative x

end Number

end RayScene
