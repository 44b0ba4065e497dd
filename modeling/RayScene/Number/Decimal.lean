import RayScene.Number.Double

/-!
# Decimals

A decimal is ± digits · 10^exponent. `Decimal.toFloat` is the nearest double, and
`Decimal.shortest` the decimal with the fewest digits that reads back as a given double; of two
such decimals it is the nearer one.
-/

namespace RayScene

/-- The number ± `digits * 10 ^ exponent`. -/
structure Decimal where
  negative : Bool
  digits : Nat
  exponent : Int
deriving DecidableEq

namespace Decimal

/-- The pattern nearest to `digits * 10 ^ exponent`. Beyond 10^310 all is infinity and below
10^-325 all is zero, so that a huge exponent costs nothing: `digits < 10 ^ (log2 digits / 3 + 1)`,
because 2^3 < 10. -/
def nearest (digits : Nat) (exponent : Int) : Nat :=
  if digits = 0 then 0
  else if 310 < exponent then Double.infinity
  else if exponent + (digits.log2 / 3 + 1 : Nat) < -325 then 0
  else match exponent with
    | .ofNat k => Double.nearest (digits * Nat.pow 10 k) 1
    | .negSucc k => Double.nearest digits (Nat.pow 10 (k + 1))

/-- The nearest double, infinite beyond the largest finite one. -/
def toFloat (d : Decimal) : Float :=
  Double.ofMagnitude d.negative (nearest d.digits d.exponent)

/-- `⌊num / den / 10 ^ place⌋`. -/
def truncate (num den : Nat) : Int → Nat
  | .ofNat k => num / (den * Nat.pow 10 k)
  | .negSucc k => num * Nat.pow 10 (k + 1) / den

/-- Whether `digits * 10 ^ place` is at most `num / den`. -/
def atMost (digits : Nat) (place : Int) (num den : Nat) : Bool :=
  match place with
  | .ofNat k => digits * Nat.pow 10 k * den ≤ num
  | .negSucc k => digits * den ≤ num * Nat.pow 10 (k + 1)

/-- The exponent of the greatest power of ten that is at most `num / den`, found from the binary
order by one correction. -/
def decimalOrder (num den : Nat) : Int :=
  let guess := Int.fdiv (Double.binaryOrder num den * 30103) 100000
  if atMost 1 (guess + 1) num den then guess + 1
  else if atMost 1 guess num den then guess
  else guess - 1

/-- Compares the distances of `num / den` from `floor * 10 ^ place`, just below it, and from the
next point of that grid. -/
def nearerNeighbour (num den floor : Nat) (place : Int) : Ordering :=
  -- the middle of the two points, doubled to stay among the integers
  match place with
  | .ofNat k => compare (2 * num) ((2 * floor + 1) * Nat.pow 10 k * den)
  | .negSucc k => compare (2 * num * Nat.pow 10 (k + 1)) ((2 * floor + 1) * den)

/-- The neighbour of a finite pattern on the grid of `10 ^ place` that reads back as the pattern:
the nearer one if both do, the even one if they are equally near. -/
def onGrid (bits : Nat) (place : Int) : Option Nat :=
  let (num, den) := Double.quotient bits
  let floor := truncate num den place
  match nearest floor place == bits, nearest (floor + 1) place == bits with
  | true, false => some floor
  | false, true => some (floor + 1)
  | false, false => none
  | true, true =>
    match nearerNeighbour num den floor place with
    | .lt => some floor
    | .gt => some (floor + 1)
    | .eq => some (floor + floor % 2)

/-- The first hit on the grids of `10 ^ place`, `10 ^ (place - 1)`, … of `count` grids. -/
def firstOnGrid (bits : Nat) : Int → Nat → Option (Nat × Int)
  | _, 0 => none
  | place, count + 1 =>
    match onGrid bits place with
    | some digits => some (digits, place)
    | none => firstOnGrid bits (place - 1) count

/-- All digits of a finite pattern: `m * 2 ^ (-k)` is `m * 5 ^ k * 10 ^ (-k)`. -/
def exact (bits : Nat) : Nat × Int :=
  match Double.parts bits with
  | (m, .ofNat q) => (m * Nat.pow 2 q, 0)
  | (m, .negSucc q) => (m * Nat.pow 5 (q + 1), .negSucc q)

/-- The shortest decimal that reads back as `x`. The first grid holds the power of ten above `x`,
and the last one numbers of seventeen digits, which are enough for every finite double. -/
def shortest (x : Float) : Decimal :=
  let bits := Double.magnitude x
  let (num, den) := Double.quotient bits
  let (digits, exponent) :=
    if bits = 0 then (0, 0)
    else (firstOnGrid bits (decimalOrder num den + 1) 18).getD (exact bits)
  ⟨Double.isNegative x, digits, exponent⟩

end Decimal

end RayScene
