import RayScene.Http.Intake
import RayScene.Text.Blank
import RayScene.Text.Integer

/-!
# Forms of bodies

What the bodies for validation and for the agent hold. Fields that a form does not have do not
matter.
-/

namespace RayScene.Http

inductive LooseIntegerError where
  | malformed
  | tooLong
deriving DecidableEq

namespace LooseInteger

/-- The most digits that are read, leading zeros apart. -/
def maxDigits : Nat := 4300

/-- A text without the zeros, and underscores among them, at its start, the last of which is given.
What is left starts with a digit, a minus sign, or the last zero before a point or the end. -/
def dropZeros (last : Char) : List Char → Option (List Char)
  | [] => some [last]
  | c :: rest =>
    if c = '0' ∨ c = '_' then dropZeros c rest
    else if c = '.' then some (last :: c :: rest)
    else if c.isDigit ∨ c = '-' then some (c :: rest)
    else none

def withoutZeros : List Char → Option (List Char)
  | '0' :: rest => dropZeros '0' rest
  | c :: rest => if c.isDigit ∨ c = '-' then some (c :: rest) else none
  | [] => none

/-- A text without a fraction of zeros, of which there must be one. -/
def withoutFraction (cs : List Char) : List Char :=
  match cs.dropWhile (· ≠ '.') with
  | _ :: '0' :: zeros => if zeros.all (· = '0') then cs.takeWhile (· ≠ '.') else cs
  | _ => cs

def hasDoubleUnderscore : List Char → Bool
  | '_' :: '_' :: _ => true
  | _ :: rest => hasDoubleUnderscore rest
  | [] => false

/-- A text without underscores, if each of them stands inside the text and by itself. -/
def withoutUnderscores (cs : List Char) : List Char :=
  if cs.head? = some '_' ∨ cs.getLast? = some '_' ∨ hasDoubleUnderscore cs then cs
  else cs.filter (· ≠ '_')

/-- The value of digits; only a zero by itself starts with a zero. -/
def ofDigits (cs : List Char) : Except LooseIntegerError Nat :=
  let digits := cs.takeWhile Char.isDigit
  match digits with
  | [] => .error .malformed
  | '0' :: _ => if cs.length = 1 then .ok 0 else .error .malformed
  | _ =>
    if maxDigits < digits.length then .error .tooLong
    else if digits.length = cs.length then
      .ok (Text.ofDigits (digits.map fun c => c.toNat - '0'.toNat))
    else .error .malformed

def ofSigned : List Char → Except LooseIntegerError Int
  | '-' :: rest => (ofDigits rest).map fun n => -(n : Int)
  | cs => (ofDigits cs).map Int.ofNat

/-- A text without blanks around it, a plus sign, leading zeros, underscores between digits and a
fraction of zeros. -/
def clean? (s : String) : Option (List Char) := do
  let cs ← match Text.trimBlanks s.toList with
    | '+' :: '-' :: _ => none
    | '+' :: rest => some rest
    | cs => some cs
  return withoutUnderscores (withoutFraction (← withoutZeros cs))

/-- The integer that a text stands for: there may be blanks around it, a sign, zeros in front of
it, single underscores between the digits and a fraction of zeros. -/
def ofText (s : String) : Except LooseIntegerError Int :=
  match clean? s with
  | some cs => ofSigned cs
  | none => .error .malformed

/-- An integral float reads as an integer between these bounds, which lie outside. -/
def floatBound : Int := 0x8000000000000000

/-- Reads an integer of whatever kind of value. -/
def read (v : Json) : Intake Int :=
  match v with
  | .int n => .ok n
  | .bool b => .ok (if b then 1 else 0)
  | .float x =>
    if Double.isFinite x then
      match Double.toInt? x with
      | none => .complain .wholeNumber v
      | some n => if n.natAbs < floatBound.natAbs then .ok n else .complain .integerSize v
    else .complain .finite v
  | .str (.proper s) =>
    match ofText s with
    | .ok n => .ok n
    | .error .malformed => .complain .integerText v
    | .error .tooLong => .complain .integerSize v
  | .str (.broken ..) => .complain .integerText v
  | _ => .complain .integer v

end LooseInteger

def maxRequestTurns : Int := 50

def readTurns (v : Json) : Intake Int := do
  let n ← LooseInteger.read v
  if n < 1 then .complain (.atLeast 1) v
  else if maxRequestTurns < n then .complain (.atMost maxRequestTurns) v
  else return n

/-! ### Forms -/

def readValidation : Json → Intake LooseText
  | .obj fields => .required fields "scene_json" .string
  | v => .complain .model v

structure AgentForm where
  prompt : LooseText
  theme : Option LooseText
  model : Option LooseText
  maxTurns : Option Int
  history : Option (List Fields)

def AgentForm.read : Json → Intake AgentForm
  | .obj fields =>
    Collected.pure AgentForm.mk
      |>.app (Intake.withDefault fields "prompt" "" Intake.string)
      |>.app (Intake.withDefault fields "theme" none (Intake.orNull Intake.string))
      |>.app (Intake.withDefault fields "model" none (Intake.orNull Intake.string))
      |>.app (Intake.withDefault fields "max_turns" none (Intake.orNull readTurns))
      |>.app (Intake.withDefault fields "history" none
        (Intake.orNull (Intake.list Intake.dictionary)))
  | v => .complain .model v

end RayScene.Http
