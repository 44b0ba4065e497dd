import RayScene.Text.Loose
import RayScene.Text.Utf8

/-!
# Encodings

A text may be sent in units of one, two or four bytes. As a text in JSON starts with ASCII, zero
bytes among its first four tell the width of the units and the order of their bytes.
-/

namespace RayScene

inductive ByteOrder where
  | big
  | little
deriving DecidableEq

inductive Encoding where
  | utf8
  | utf16 (order : ByteOrder)
  | utf32 (order : ByteOrder)
deriving DecidableEq

namespace Encoding

/-- The encoding that the first bytes show. -/
def detect : Bytes → Encoding
  | a :: b :: c :: d :: _ =>
    if a = 0 then (if b = 0 then utf32 .big else utf16 .big)
    else if b = 0 then (if c = 0 ∧ d = 0 then utf32 .little else utf16 .little)
    else utf8
  | [a, b] => if a = 0 then utf16 .big else if b = 0 then utf16 .little else utf8
  | _ => utf8

def unit (order : ByteOrder) (a b : UInt8) : Nat :=
  match order with
  | .big => 256 * a.toNat + b.toNat
  | .little => 256 * b.toNat + a.toNat

/-- The units of two bytes, if no byte is left over. -/
def units? (order : ByteOrder) : Bytes → Option (List Nat)
  | a :: b :: rest => (units? order rest).map (unit order a b :: ·)
  | [_] => none
  | [] => some []

/-- The code points of units of two bytes; two halves of a character join. -/
def ofUnits : List Nat → List CodePoint
  | [] => []
  | [u] => [ofUnit u]
  | u :: v :: rest =>
    if Surrogate.isLeading u && Surrogate.isTrailing v then
      .char (Surrogate.join u v) :: ofUnits rest
    else ofUnit u :: ofUnits (v :: rest)
where
  /-- The code point of a single unit. -/
  ofUnit (u : Nat) : CodePoint :=
    if Surrogate.isLeading u || Surrogate.isTrailing u then .surrogate u
    else .char (Char.ofNat u)

/-- The code point with a number, if there is one. -/
def point? (n : Nat) : Option CodePoint :=
  if Surrogate.isLeading n || Surrogate.isTrailing n then some (.surrogate n)
  else if n < 0x110000 then some (.char (Char.ofNat n))
  else none

/-- The code points of units of four bytes, if all are code points and no byte is left over. -/
def ofQuads? (order : ByteOrder) : Bytes → Option (List CodePoint)
  | a :: b :: c :: d :: rest =>
    let n := match order with
      | .big => 65536 * unit .big a b + unit .big c d
      | .little => 65536 * unit .little c d + unit .little a b
    match point? n, ofQuads? order rest with
    | some p, some ps => some (p :: ps)
    | _, _ => none
  | [] => some []
  | _ => none

/-- The code points that bytes stand for in this encoding. -/
def decode? (bytes : Bytes) : Encoding → Option (List CodePoint)
  | utf8 => (Utf8.decode bytes).toOption.map fun s => s.toList.map .char
  | utf16 order => (units? order bytes).map ofUnits
  | utf32 order => ofQuads? order bytes

end Encoding

end RayScene
