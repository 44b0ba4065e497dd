import RayScene.Number.Decimal

/-!
# Written floats

A float is written with its shortest digits. What is left to decide is in a `FloatStyle`: which
decimal exponents are written positionally and how wide an exponent is at least. A positional
form always has a point.
-/

namespace RayScene

/-- How a float is laid out. -/
structure FloatStyle where
  /-- the least decimal exponent that is written positionally -/
  leastPositional : Int
  /-- the greatest decimal exponent that is written positionally -/
  greatestPositional : Int
  /-- exponents are padded with zeros to this many digits -/
  exponentWidth : Nat
deriving DecidableEq

namespace FloatStyle

/-- Floats in renderer input, in messages and in conversations: `1e-05`, `0.0001`, `1e+16`. -/
def plain : FloatStyle := ⟨-4, 15, 2⟩

/-- Floats in stored scene sources: `1e-7`, `0.00001`, `1e+16`. -/
def stored : FloatStyle := ⟨-5, 15, 1⟩

def zeros (n : Nat) : List Char := List.replicate n '0'

/-- `digits` with the decimal point after the first `whole` of them; `whole` may lie outside. -/
def positional (digits : List Char) (whole : Int) : List Char :=
  if whole ≤ 0 then '0' :: '.' :: zeros (-whole).toNat ++ digits
  else if digits.length ≤ whole then digits ++ zeros (whole.toNat - digits.length) ++ ['.', '0']
  else digits.take whole.toNat ++ '.' :: digits.drop whole.toNat

def exponentText (style : FloatStyle) (e : Int) : List Char :=
  let digits := Nat.toDigits 10 e.natAbs
  (if e < 0 then '-' else '+') :: zeros (style.exponentWidth - digits.length) ++ digits

def scientific (style : FloatStyle) (digits : List Char) (e : Int) : List Char :=
  let fraction := match digits.drop 1 with
    | [] => []
    | rest => '.' :: rest
  digits.take 1 ++ fraction ++ 'e' :: style.exponentText e

def unsigned (style : FloatStyle) (n : Nat) (place : Int) : List Char :=
  let digits := Nat.toDigits 10 n
  let order : Int := digits.length + place - 1
  if n = 0 then ['0', '.', '0']
  else if style.leastPositional ≤ order ∧ order ≤ style.greatestPositional then
    positional digits (order + 1)
  else style.scientific digits order

/-- The text of a float, with `nan`, `inf` and `-inf` for the values without digits. -/
def write (style : FloatStyle) (x : Float) : String :=
  let sign := if Double.isNegative x then ['-'] else []
  if Double.isFinite x then
    let d := Decimal.shortest x
    String.ofList (sign ++ style.unsigned d.digits d.exponent)
  else if Double.isInfinite x then String.ofList (sign ++ ['i', 'n', 'f'])
  else "nan"

end FloatStyle

end RayScene
