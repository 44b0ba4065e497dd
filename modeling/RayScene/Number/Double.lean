/-!
# Doubles as exact numbers

A finite double is ± mantissa · 2^exponent. `Double.parts` reads the two numbers off the bit
pattern without its sign, and `Double.nearest` goes back: it gives the pattern nearest to a
quotient of natural numbers, ties to the even pattern, infinity beyond the largest finite double.
All arithmetic here is exact, on `Nat` and `Int`.
-/

namespace RayScene.Double

/-- The pattern of positive infinity; every smaller pattern is a finite magnitude. -/
def infinity : Nat := 0x7FF0000000000000

def signBit : Nat := 0x8000000000000000

/-- The least mantissa with all 53 bits, and the pattern of the smallest double that has one. -/
def fullMantissa : Nat := 0x10000000000000

/-- The pattern of `x` without its sign bit. -/
def magnitude (x : Float) : Nat := x.toBits.toNat % signBit

def isNegative (x : Float) : Bool := signBit ≤ x.toBits.toNat

/-- The double with this sign and this pattern. -/
def ofMagnitude (negative : Bool) (bits : Nat) : Float :=
  Float.ofBits (UInt64.ofNat (if negative then signBit + bits else bits))

/-- Neither infinite nor NaN. -/
def isFinite (x : Float) : Bool := magnitude x < infinity

def isInfinite (x : Float) : Bool := magnitude x == infinity

/-- Mantissa and binary exponent of a finite pattern: its value is `mantissa * 2 ^ exponent`. -/
def parts (bits : Nat) : Nat × Int :=
  if bits < fullMantissa then (bits, -1074)
  else (fullMantissa + bits % fullMantissa, (bits / fullMantissa : Nat) - 1075)

/-- The value of a finite pattern as a quotient with a positive denominator. -/
def quotient (bits : Nat) : Nat × Nat :=
  match parts bits with
  | (m, .ofNat q) => (m * Nat.pow 2 q, 1)
  | (m, .negSucc q) => (m, Nat.pow 2 (q + 1))

/-- `num / den` rounded to a natural number, ties to the even one. -/
def roundHalfEven (num den : Nat) : Nat :=
  let floor := num / den
  let twice := 2 * (num % den)
  if twice < den then floor
  else if den < twice then floor + 1
  else floor + floor % 2

/-- The exponent of the greatest power of two that is at most `num / den`. -/
def binaryOrder (num den : Nat) : Int :=
  let guess : Int := (num.log2 : Int) - den.log2
  let reached : Bool := match guess with
    | .ofNat k => den * Nat.pow 2 k ≤ num
    | .negSucc k => den ≤ num * Nat.pow 2 (k + 1)
  if reached then guess else guess - 1

/-- The pattern nearest to `num / den`: the mantissa takes 53 bits, fewer only when the exponent
would fall below that of the smallest double. A mantissa that rounds up to the next power of two
carries into the exponent by itself. -/
def nearest (num den : Nat) : Nat :=
  if num = 0 then 0
  else
    let q := max (-1074) (binaryOrder num den - 52)
    let m := match q with
      | .ofNat k => roundHalfEven num (den * Nat.pow 2 k)
      | .negSucc k => roundHalfEven (num * Nat.pow 2 (k + 1)) den
    min infinity ((q + 1074).toNat * fullMantissa + m)

def ofInt (n : Int) : Float := ofMagnitude (n < 0) (nearest n.natAbs 1)

/-- The integer that a finite double equals, if it equals one. -/
def toInt? (x : Float) : Option Int :=
  if isFinite x then
    let (num, den) := quotient (magnitude x)
    if num % den = 0 then
      let n : Int := (num / den : Nat)
      some (if isNegative x then -n else n)
    else none
  else none

/-- Compares a finite double with an integer, exactly. -/
def compareInt (x : Float) (n : Int) : Ordering :=
  let (num, den) := quotient (magnitude x)
  let signed : Int := if isNegative x then -(num : Int) else num
  compare signed (n * den)

end RayScene.Double
