import RayScene.Json.Basic
import RayScene.Text.Hex

/-!
# Reading JSON, one character at a time

`Machine.step` takes a state and a character to the next state, or to none if no JSON text goes on
like that. A state holds the containers that are still open, innermost first, and what may come
next. Reading a text is a fold (`Machine.feed`); why a text was refused is told from the state in
which reading stopped (`Machine.stop`), apart from here.

Besides JSON proper the words `NaN`, `Infinity` and `-Infinity` are read as floats.
-/

namespace RayScene.Json.Machine

/-- A container that waits for a value. -/
inductive Frame where
  /-- a list with its items so far, last first -/
  | list (items : List Json)
  /-- an object with its fields so far and the key of the value -/
  | member (fields : Fields) (key : LooseText)

/-- Where in a string reading is. A unit is half of a character beyond U+FFFF. -/
inductive Escape where
  | outside
  | backslash
  /-- after `\u` and some of four digits -/
  | unit (digits value : Nat)
  /-- after a leading unit -/
  | leading (unit : Nat)
  | leadingBackslash (unit : Nat)
  /-- in the unit that follows a leading one -/
  | trailing (unit digits value : Nat)

/-- Which part of a number was read last. -/
inductive Part where
  | minus
  | leadingZero
  | whole
  | point
  | fraction
  | exponentMark
  | exponentSign
  | exponent
deriving DecidableEq

structure Numeral where
  negative : Bool
  part : Part
  /-- the digits before and after the point, as one number -/
  digits : Nat
  /-- how many digits stand after the point -/
  places : Nat
  exponentNegative : Bool
  exponentDigits : Nat
  /-- how many digits the whole part has -/
  width : Nat

/-- What a string is for: a value, or a key after some fields. -/
inductive Role where
  | value
  | key (fields : Fields)

/-- What may come next. -/
inductive Mode where
  | value
  /-- an item or the end of an empty list -/
  | firstItem
  /-- a comma or the end of a list with these items, last first -/
  | afterItem (items : List Json)
  /-- a key or the end of an empty object -/
  | firstKey
  /-- a key after these fields and a comma -/
  | nextKey (fields : Fields)
  | colon (fields : Fields) (key : LooseText)
  /-- a comma or the end of an object with these fields -/
  | afterMember (fields : Fields)
  /-- more of a string whose text so far is given last code point first -/
  | string (role : Role) (text : List CodePoint) (escape : Escape)
  | number (numeral : Numeral)
  /-- the rest of a word that stands for a value -/
  | word (whole rest : List Char) (meaning : Json)
  /-- nothing but white space -/
  | done (result : Json)

structure State where
  frames : List Frame
  mode : Mode

structure Limits where
  /-- a value stands in fewer containers than this -/
  depth : Nat
  /-- the most digits of the whole part of a number, if that is bounded -/
  wholeDigits : Option Nat
  /-- the most digits of an integer, if that is bounded -/
  integerDigits : Option Nat
  /-- whether a minus sign counts for a digit -/
  countsSign : Bool
  /-- whether strings may hold surrogates by themselves -/
  surrogates : Bool

def isWithin (bound : Option Nat) (n : Nat) : Bool := bound.all fun most => n ≤ most

/-- What so many digits of a whole part count for. -/
def Limits.span (limits : Limits) (negative : Bool) (width : Nat) : Nat :=
  width + if negative && limits.countsSign then 1 else 0

/-- White space between tokens. -/
def isSpace (c : Char) : Bool := c = ' ' || c = '\t' || c = '\n' || c = '\r'

def complete (value : Json) : List Frame → State
  | [] => ⟨[], .done value⟩
  | .list items :: frames => ⟨frames, .afterItem (value :: items)⟩
  | .member fields key :: frames => ⟨frames, .afterMember (fields.put key value)⟩

def digit? (c : Char) : Option Nat :=
  if '0' ≤ c ∧ c ≤ '9' then some (c.toNat - '0'.toNat) else none

/-! ### Numbers -/

namespace Numeral

/-- A number that starts with `c`. -/
def start? (c : Char) : Option Numeral :=
  if c = '-' then some ⟨true, .minus, 0, 0, false, 0, 0⟩
  else (digit? c).map fun d =>
    ⟨false, if d = 0 then .leadingZero else .whole, d, 0, false, 0, 1⟩

def pushWhole (n : Numeral) (d : Nat) (part : Part) : Numeral :=
  { n with part, digits := 10 * n.digits + d, width := n.width + 1 }

def pushFraction (n : Numeral) (d : Nat) : Numeral :=
  { n with part := .fraction, digits := 10 * n.digits + d, places := n.places + 1 }

def pushExponent (n : Numeral) (d : Nat) : Numeral :=
  { n with part := .exponent, exponentDigits := 10 * n.exponentDigits + d }

/-- The number after a point or an exponent mark. -/
def mark? (n : Numeral) (c : Char) : Option Numeral :=
  if c = 'e' ∨ c = 'E' then some { n with part := .exponentMark }
  else if c = '.' ∧ n.part ≠ .fraction then some { n with part := .point }
  else none

/-- The number with one more character, if that can belong to it. -/
def push? (limits : Limits) (n : Numeral) (c : Char) : Option Numeral :=
  match n.part, digit? c with
  | .minus, some d => some (n.pushWhole d (if d = 0 then .leadingZero else .whole))
  | .minus, none => none
  | .leadingZero, some _ => none
  | .leadingZero, none => n.mark? c
  | .whole, some d =>
    if isWithin limits.wholeDigits (limits.span n.negative (n.width + 1)) then
      some (n.pushWhole d .whole)
    else none
  | .whole, none => n.mark? c
  | .point, some d => some (n.pushFraction d)
  | .point, none => none
  | .fraction, some d => some (n.pushFraction d)
  | .fraction, none => n.mark? c
  | .exponentMark, some d => some (n.pushExponent d)
  | .exponentMark, none =>
    if c = '+' then some { n with part := .exponentSign }
    else if c = '-' then some { n with part := .exponentSign, exponentNegative := true }
    else none
  | .exponentSign, some d => some (n.pushExponent d)
  | .exponentSign, none => none
  | .exponent, some d => some (n.pushExponent d)
  | .exponent, none => none

/-- The value, if the number may end here. A point or an exponent makes it a float. -/
def value? (limits : Limits) (n : Numeral) : Option Json :=
  let decimal : Decimal :=
    ⟨n.negative, n.digits,
      (if n.exponentNegative then -(n.exponentDigits : Int) else n.exponentDigits) - n.places⟩
  match n.part with
  | .leadingZero | .whole =>
    if isWithin limits.integerDigits (limits.span n.negative n.width) then
      some (.int (if n.negative then -(n.digits : Int) else n.digits))
    else none
  | .fraction | .exponent => some (.float decimal.toFloat)
  | .minus | .point | .exponentMark | .exponentSign => none

end Numeral

/-! ### Strings -/

/-- The character after a backslash, except for `u`. -/
def simpleEscape? (c : Char) : Option Char :=
  if c = '"' ∨ c = '\\' ∨ c = '/' then some c
  else if c = 'b' then some '\x08'
  else if c = 'f' then some '\x0c'
  else if c = 'n' then some '\n'
  else if c = 'r' then some '\r'
  else if c = 't' then some '\t'
  else none

/-- The text after a character outside of escapes. -/
def pushPlain? (text : List CodePoint) (c : Char) : Option (List CodePoint × Escape) :=
  if c = '\\' then some (text, .backslash)
  else if c.toNat < 0x20 then none
  else some (.char c :: text, .outside)

def pushEscaped? (text : List CodePoint) (c : Char) : Option (List CodePoint × Escape) :=
  if c = 'u' then some (text, .unit 0 0)
  else (simpleEscape? c).map fun e => (.char e :: text, .outside)

/-- The text after an escape of four digits. -/
def pushUnit? (limits : Limits) (text : List CodePoint) (unit : Nat) :
    Option (List CodePoint × Escape) :=
  if Surrogate.isLeading unit then some (text, .leading unit)
  else if Surrogate.isTrailing unit then
    if limits.surrogates then some (.surrogate unit :: text, .outside) else none
  else some (.char (Char.ofNat unit) :: text, .outside)

/-- The text of a string and the place in it after one more character other than the closing
quote. A leading unit that no trailing one follows stands by itself, if it may. -/
def pushText? (limits : Limits) (text : List CodePoint) (escape : Escape) (c : Char) :
    Option (List CodePoint × Escape) :=
  match escape with
  | .outside => pushPlain? text c
  | .backslash => pushEscaped? text c
  | .unit digits value =>
    match Text.hexValue? c with
    | none => none
    | some d =>
      let unit := 16 * value + d
      if digits < 3 then some (text, .unit (digits + 1) unit) else pushUnit? limits text unit
  | .leading unit =>
    if c = '\\' then some (text, .leadingBackslash unit)
    else if limits.surrogates then pushPlain? (.surrogate unit :: text) c
    else none
  | .leadingBackslash unit =>
    if c = 'u' then some (text, .trailing unit 0 0)
    else if limits.surrogates then pushEscaped? (.surrogate unit :: text) c
    else none
  | .trailing first digits value =>
    match Text.hexValue? c with
    | none => none
    | some d =>
      let unit := 16 * value + d
      if digits < 3 then some (text, .trailing first (digits + 1) unit)
      else if Surrogate.isTrailing unit then
        some (.char (Surrogate.join first unit) :: text, .outside)
      else if limits.surrogates then pushUnit? limits (.surrogate first :: text) unit
      else none

/-- The text of a string that ends here, last code point first, if it may end here. -/
def closedText? (limits : Limits) (text : List CodePoint) : Escape → Option (List CodePoint)
  | .outside => some text
  | .leading unit => if limits.surrogates then some (.surrogate unit :: text) else none
  | _ => none

/-- The state after the closing quote of a string. -/
def completeText (frames : List Frame) (role : Role) (text : List CodePoint) : State :=
  let s := LooseText.ofPoints text.reverse
  match role with
  | .value => complete (.str s) frames
  | .key fields => ⟨frames, .colon fields s⟩

/-! ### Values -/

/-- The word that a character starts, and the value that it stands for. -/
def word? (c : Char) : Option (String × Json) :=
  if c = 't' then some ("true", .bool true)
  else if c = 'f' then some ("false", .bool false)
  else if c = 'n' then some ("null", .null)
  else if c = 'N' then some ("NaN", .float (0.0 / 0.0))
  else if c = 'I' then some ("Infinity", .float (Double.ofMagnitude false Double.infinity))
  else none

/-- The word after a minus sign. -/
def minusInfinity (frames : List Frame) : State :=
  ⟨frames, .word "-Infinity".toList "nfinity".toList
    (.float (Double.ofMagnitude true Double.infinity))⟩

/-- The state after the first character of a value. -/
def openValue? (limits : Limits) (frames : List Frame) (c : Char) : Option State :=
  if limits.depth ≤ frames.length then none
  else if c = '"' then some ⟨frames, .string .value [] .outside⟩
  else if c = '[' then some ⟨frames, .firstItem⟩
  else if c = '\x7b' then some ⟨frames, .firstKey⟩
  else match Numeral.start? c, word? c with
    | some n, _ => some ⟨frames, .number n⟩
    | none, some (word, meaning) => some ⟨frames, .word word.toList (word.toList.drop 1) meaning⟩
    | none, none => none

/-- A step between tokens. -/
def stepBetween (limits : Limits) (s : State) (c : Char) : Option State :=
  if isSpace c then some s
  else match s.mode with
    | .value => openValue? limits s.frames c
    | .firstItem =>
      if c = ']' then some (complete (.arr []) s.frames)
      else openValue? limits (.list [] :: s.frames) c
    | .afterItem items =>
      if c = ',' then some ⟨.list items :: s.frames, .value⟩
      else if c = ']' then some (complete (.arr items.reverse) s.frames)
      else none
    | .firstKey =>
      if c = '"' then some ⟨s.frames, .string (.key []) [] .outside⟩
      else if c = '\x7d' then some (complete (.obj []) s.frames)
      else none
    | .nextKey fields =>
      if c = '"' then some ⟨s.frames, .string (.key fields) [] .outside⟩ else none
    | .colon fields key =>
      if c = ':' then some ⟨.member fields key :: s.frames, .value⟩ else none
    | .afterMember fields =>
      if c = ',' then some ⟨s.frames, .nextKey fields⟩
      else if c = '\x7d' then some (complete (.obj fields) s.frames)
      else none
    | .string .. | .number .. | .word .. | .done .. => none

/-- A step. A number ends where the next character cannot belong to it. -/
def step (limits : Limits) (s : State) (c : Char) : Option State :=
  match s.mode with
  | .string role text escape =>
    match closedText? limits text escape, decide (c = '"') with
    | some text, true => some (completeText s.frames role text)
    | _, _ => (pushText? limits text escape c).map fun (text, escape) =>
      ⟨s.frames, .string role text escape⟩
  | .number n =>
    match n.push? limits c, n.value? limits with
    | some n', _ => some ⟨s.frames, .number n'⟩
    | none, some value => stepBetween limits (complete value s.frames) c
    | none, none =>
      if n.part = .minus ∧ c = 'I' then some (minusInfinity s.frames) else none
  | .word _ [] _ => none
  | .word whole (e :: rest) meaning =>
    if c = e then
      some (if rest.isEmpty then complete meaning s.frames
        else ⟨s.frames, .word whole rest meaning⟩)
    else none
  | _ => stepBetween limits s c

/-- A step by a code point. A surrogate can only be a part of a string. -/
def stepPoint (limits : Limits) (s : State) : CodePoint → Option State
  | .char c => step limits s c
  | .surrogate unit =>
    match s.mode with
    | .string role text escape =>
      (closedText? limits text escape).map fun text =>
        ⟨s.frames, .string role (.surrogate unit :: text) .outside⟩
    | _ => none

def initial : State := ⟨[], .value⟩

def feed {α : Type} (step : State → α → Option State) (s : State) (cs : List α) : Option State :=
  cs.foldlM step s

/-- The value of a text that ends here. A number at the end of the text is complete. -/
def result? (limits : Limits) (s : State) : Option Json :=
  match s.frames, s.mode with
  | [], .done v => some v
  | [], .number n => n.value? limits
  | _, _ => none

/-- Where reading stops: how many characters were read, the state, and what follows. -/
structure Stop (α : Type) where
  position : Nat
  state : State
  rest : List α

/-- The first state that does not go on. -/
def stop {α : Type} (step : State → α → Option State) (position : Nat) (s : State) :
    List α → Stop α
  | [] => ⟨position, s, []⟩
  | c :: cs =>
    match step s c with
    | some s' => stop step (position + 1) s' cs
    | none => ⟨position, s, c :: cs⟩

end RayScene.Json.Machine
