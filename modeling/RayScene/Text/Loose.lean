/-!
# Loose text

Text that may hold surrogates by themselves: halves of characters beyond U+FFFF whose other half is
missing. JSON can spell such text, but no file and no reply can hold it. Text without surrogates
(`LooseText.proper`) is a `String`; each text has one form only.
-/

namespace RayScene

namespace Surrogate

/-- The first half of a character beyond U+FFFF. -/
def isLeading (unit : Nat) : Bool := 0xD800 ≤ unit && unit < 0xDC00

/-- The second half of a character beyond U+FFFF. -/
def isTrailing (unit : Nat) : Bool := 0xDC00 ≤ unit && unit < 0xE000

def join (leading trailing : Nat) : Char :=
  Char.ofNat (0x10000 + (leading - 0xD800) * 0x400 + (trailing - 0xDC00))

end Surrogate

/-- A character, or a surrogate by itself. -/
inductive CodePoint where
  | char (c : Char)
  | surrogate (unit : Nat)
deriving DecidableEq

inductive LooseText where
  | proper (s : String)
  /-- what comes before the first surrogate, the surrogate, and what follows -/
  | broken (before : String) (unit : Nat) (after : List CodePoint)
deriving DecidableEq

namespace LooseText

instance : Coe String LooseText := ⟨proper⟩

def points : LooseText → List CodePoint
  | proper s => s.toList.map .char
  | broken before unit after => before.toList.map .char ++ .surrogate unit :: after

/-- The text of code points that follow some characters, the last of which comes first. -/
def ofPointsAfter (before : List Char) : List CodePoint → LooseText
  | [] => proper (String.ofList before.reverse)
  | .char c :: rest => ofPointsAfter (c :: before) rest
  | .surrogate unit :: rest => broken (String.ofList before.reverse) unit rest

def ofPoints (points : List CodePoint) : LooseText := ofPointsAfter [] points

theorem ofPointsAfter_append (before cs : List Char) (rest : List CodePoint) :
    ofPointsAfter before (cs.map .char ++ rest) = ofPointsAfter (cs.reverse ++ before) rest := by
  induction cs generalizing before with
  | nil => rfl
  | cons c cs ih => simp [ofPointsAfter, ih]

/-- Each text has one form. -/
theorem ofPoints_points (t : LooseText) : ofPoints t.points = t := by
  cases t with
  | proper s =>
    have h := ofPointsAfter_append [] s.toList []
    simpa [ofPoints, points, ofPointsAfter] using h
  | broken before unit after =>
    have h := ofPointsAfter_append [] before.toList (.surrogate unit :: after)
    simpa [ofPoints, points, ofPointsAfter] using h

def proper? : LooseText → Option String
  | proper s => some s
  | broken .. => none

def isProper (t : LooseText) : Bool := t.proper?.isSome

def isEmpty : LooseText → Bool
  | proper s => s.isEmpty
  | broken .. => false

def append : LooseText → LooseText → LooseText
  | proper s, proper t => proper (s ++ t)
  | proper s, broken before unit after => broken (s ++ before) unit after
  | broken before unit after, t => broken before unit (after ++ t.points)

instance : Append LooseText := ⟨append⟩

def intercalate (separator : LooseText) : List LooseText → LooseText
  | [] => proper ""
  | [t] => t
  | t :: rest => t ++ separator ++ intercalate separator rest

/-- A code point as it is shown where surrogates cannot be: a surrogate would take three bytes, each
of which is shown as U+FFFD. -/
def shownPoint : CodePoint → List Char
  | .char c => [c]
  | .surrogate _ => ['\uFFFD', '\uFFFD', '\uFFFD']

def shown : LooseText → String
  | proper s => s
  | t => String.ofList (t.points.flatMap shownPoint)

end LooseText

end RayScene
