import RayScene.Text.Blank
import RayScene.Text.DecimalDigit
import RayScene.Text.Quoted

/-!
# Written integers

An integer that is read may stand between blanks, have a sign and have single underscores between
its digits, which may be of any script. An integer is written with its digits alone. Neither way may
it have more than 4300 digits.
-/

namespace RayScene.Text

inductive IntegerError where
  | notInteger (text : String)
  | tooLong (digits : Nat)
deriving DecidableEq

/-- The most digits that are read and written. -/
def integerDigitLimit : Nat := 4300

/-- Writes an integer, if it has no more digits than are written. -/
def writeInteger? (n : Int) : Option String :=
  if (Nat.toDigits 10 n.natAbs).length ≤ integerDigitLimit then some (toString n) else none

/-- What is said of an integer that is not written. -/
def unwritableText : String := "Exceeds the limit (" ++ toString integerDigitLimit ++
  " digits) for integer string conversion; use sys.set_int_max_str_digits() to increase the limit"

/-- The digit values at the start of a text, single underscores between them, and what follows. A
text that does not start with a digit, or whose digits end with an underscore, has none. -/
def digitRun (value? : Char → Option Nat) : List Char → Option (List Nat × List Char)
  | [] => none
  | c :: rest => (value? c).bind fun d => digitsAfter d rest
where
  /-- The run that starts with a digit. -/
  digitsAfter (d : Nat) : List Char → Option (List Nat × List Char)
    | '_' :: c :: rest => do
      let (ds, rest) ← digitsAfter (← value? c) rest
      return (d :: ds, rest)
    | ['_'] => none
    | c :: rest =>
      match value? c with
      | none => some ([d], c :: rest)
      | some d' => (digitsAfter d' rest).map fun (ds, rest) => (d :: ds, rest)
    | [] => some ([d], [])

/-- A sign, if any, and what follows it. -/
def splitSign : List Char → Bool × List Char
  | '-' :: rest => (true, rest)
  | '+' :: rest => (false, rest)
  | cs => (false, cs)

def ofDigits (digits : List Nat) : Nat := digits.foldl (fun n d => 10 * n + d) 0

/-- Reads an integer. Too many digits are an error even if something else follows them. -/
def readInteger (s : String) : Except IntegerError Int :=
  let (negative, rest) := splitSign (trimBlanks s.toList)
  match digitRun digitValue? rest with
  | none => .error (.notInteger s)
  | some (digits, rest) =>
    if integerDigitLimit < digits.length then .error (.tooLong digits.length)
    else if rest.isEmpty then
      .ok (if negative then -(ofDigits digits : Int) else ofDigits digits)
    else .error (.notInteger s)

def IntegerError.message : IntegerError → String
  | notInteger s => "invalid literal for int() with base 10: " ++
      String.ofList ((quoted s).toList.take 200)
  | tooLong n => "Exceeds the limit (" ++ toString integerDigitLimit ++
      " digits) for integer string conversion: value has " ++ toString n ++
      " digits; use sys.set_int_max_str_digits() to increase the limit"

end RayScene.Text
