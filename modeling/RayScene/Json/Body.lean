import RayScene.Json.Machine
import RayScene.Text.Encoding

/-!
# JSON bodies

A request body is JSON too, in one of several encodings, and its strings may hold surrogates. Its
errors have a wording of their own and are placed by the number of code points before them, at the
start of the token that is in the way.
-/

namespace RayScene.Json

inductive BodyReason where
  | value
  | key
  | colon
  | comma
  | extra
  | unterminated
  | controlCharacter
  | escape
  | unit
deriving DecidableEq

def BodyReason.text : BodyReason → String
  | value => "Expecting value"
  | key => "Expecting property name enclosed in double quotes"
  | colon => "Expecting ':' delimiter"
  | comma => "Expecting ',' delimiter"
  | extra => "Extra data"
  | unterminated => "Unterminated string starting at"
  | controlCharacter => "Invalid control character at"
  | escape => "Invalid \\escape"
  | unit => "Invalid \\uXXXX escape"

/-- Why a body cannot be read: for a reason with its place, or because its bytes are no text or
it is beyond the limits. -/
inductive BodyError where
  | invalid (reason : BodyReason) (offset : Nat)
  | unreadable
deriving DecidableEq

def bodyLimits : Machine.Limits := ⟨968, none, some 4300, false, true⟩

namespace Machine

/-- What should have come between two tokens. -/
def expectedBetween (s : State) : BodyReason :=
  match s.mode with
  | .afterItem _ | .afterMember _ => .comma
  | .firstKey | .nextKey _ => .key
  | .colon .. => .colon
  | .done _ => .extra
  | .value | .firstItem | .string .. | .number .. | .word .. => .value

/-- Whether the limits are in the way: of containers inside each other, or of the digits of an
integer, which a number is that does not go on with a complete fraction or exponent. -/
def Stop.isBeyond {α : Type} (limits : Limits) (halt : Stop α) : Bool :=
  match halt.state.mode, halt.rest with
  | .value, _ :: _ => limits.depth ≤ halt.state.frames.length
  | .firstItem, _ :: _ => limits.depth ≤ halt.state.frames.length + 1
  | .number n, _ =>
    match n.part with
    | .fraction | .exponent => false
    | _ => !isWithin limits.integerDigits (limits.span n.negative n.width)
  | _, _ => false

/-- The place of the quote that opens the string in which a text stops. -/
def openingQuote {α : Type} (step : State → α → Option State) (position quote : Nat) (s : State) :
    List α → Nat
  | [] => quote
  | c :: cs =>
    match step s c with
    | none => quote
    | some s' =>
      let quote' := match s.mode with
        | .string .. => quote
        | _ => position
      openingQuote step (position + 1) quote' s' cs

/-- Whether the last six characters of a text are an escape of four digits, which is not taken as
complete where nothing follows. -/
def endsInEscape (limits : Limits) (cs : List CodePoint) : Bool :=
  let (before, last) := cs.splitAt (cs.length - 5)
  match (feed (stepPoint limits) initial before).map State.mode with
  | some (.string _ _ .backslash) | some (.string _ _ (.leadingBackslash _)) =>
    last.head? == some (.char 'u')
  | _ => false

/-- The error at a stop. A number that breaks off is read up to its last complete part, so that
what follows is in the way there. -/
def Stop.bodyError (limits : Limits) (cs : List CodePoint) (halt : Stop CodePoint) : BodyError :=
  let position := halt.position
  if halt.isBeyond limits then .unreadable
  else match halt.state.mode with
    | .number n =>
      let after := expectedBetween (complete .null halt.state.frames)
      match n.part with
      | .minus => .invalid .value (position - 1)
      | .point | .exponentMark => .invalid after (position - 1)
      | .exponentSign => .invalid after (position - 2)
      | .leadingZero | .whole | .fraction | .exponent => .invalid after position
    | .word whole rest _ => .invalid .value (position - (whole.length - rest.length))
    | .string _ _ escape =>
      match escape, halt.rest with
      | .unit digits _, _ | .trailing _ digits _, _ => .invalid .unit (position - digits - 1)
      | .outside, _ :: _ | .leading _, _ :: _ => .invalid .controlCharacter position
      | .backslash, _ :: _ | .leadingBackslash _, _ :: _ => .invalid .escape (position - 1)
      | _, [] =>
        if endsInEscape limits cs then .invalid .unit (position - 5)
        else .invalid .unterminated (openingQuote (stepPoint limits) 0 0 initial cs)
    | _ => .invalid (expectedBetween halt.state) position

end Machine

/-- A text without the byte order mark at its start. -/
def dropMark : List CodePoint → List CodePoint
  | .char '\uFEFF' :: rest => rest
  | cs => cs

/-- Reads a text; of a key that is repeated the last value counts. -/
def parsePoints (limits : Machine.Limits) (cs : List CodePoint) : Except BodyError Json :=
  let step := Machine.stepPoint limits
  match (Machine.feed step Machine.initial cs).bind (Machine.result? limits) with
  | some v => .ok v.once
  | none => .error ((Machine.stop step 0 Machine.initial cs).bodyError limits cs)

def parseBody (bytes : Bytes) : Except BodyError Json :=
  match (Encoding.detect bytes).decode? bytes with
  | some cs => parsePoints bodyLimits (dropMark cs)
  | none => .error .unreadable

end RayScene.Json
