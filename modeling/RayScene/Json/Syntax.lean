import RayScene.Json.Machine

/-!
# JSON texts and their syntax errors

`Json.parse` reads a whole text; a key stands in an object as often as in the text. A text that is
refused is told from the state in which reading stopped: the reason, the line, and the column
counted in UTF-8 bytes.
-/

namespace RayScene.Json

/-- What a text lacks, or has too much. -/
inductive SyntaxReason where
  | endInValue
  | endInList
  | endInObject
  | endInString
  | value
  | word
  | number
  | numberTooLong
  | listEnd
  | objectEnd
  | colon
  | key
  | trailingComma
  | controlCharacter
  | escape
  | loneUnit
  | missingUnit
  | depth
  | trailingCharacters
deriving DecidableEq

def SyntaxReason.text : SyntaxReason → String
  | endInValue => "EOF while parsing a value"
  | endInList => "EOF while parsing a list"
  | endInObject => "EOF while parsing an object"
  | endInString => "EOF while parsing a string"
  | value => "expected value"
  | word => "expected ident"
  | number => "invalid number"
  | numberTooLong => "number out of range"
  | listEnd => "expected `,` or `]`"
  | objectEnd => "expected `,` or `\x7d`"
  | colon => "expected `:`"
  | key => "key must be a string"
  | trailingComma => "trailing comma"
  | controlCharacter => "control character (\\u0000-\\u001F) found while parsing a string"
  | escape => "invalid escape"
  | loneUnit => "lone leading surrogate in hex escape"
  | missingUnit => "unexpected end of hex escape"
  | depth => "recursion limit exceeded"
  | trailingCharacters => "trailing characters"

structure SyntaxError where
  reason : SyntaxReason
  line : Nat
  column : Nat
deriving DecidableEq

def SyntaxError.message (e : SyntaxError) : String :=
  e.reason.text ++ " at line " ++ toString e.line ++ " column " ++ toString e.column

/-- What texts keep to, a minus sign counting for a digit or not. -/
def textLimits (countsSign : Bool) : Machine.Limits :=
  ⟨201, some 4300, some 4300, countsSign, false⟩

namespace Machine

/-- Whether at least four bytes follow an escape mark, `digits` of them read. -/
def hasFourBytes (digits : Nat) (rest : List Char) : Bool :=
  4 ≤ (rest.take 4).foldl (fun n c => n + c.utf8Size) digits

/-- Why a string does not go on with `c`. -/
def escapeReason (escape : Escape) (c : Char) (rest : List Char) : SyntaxReason :=
  match escape with
  | .outside => .controlCharacter
  | .backslash => .escape
  | .unit digits _ | .trailing _ digits _ =>
    -- a digit is refused only if it completes a unit that may not stand here
    if (Text.hexValue? c).isSome then .loneUnit
    else if hasFourBytes digits (c :: rest) then .escape
    else .endInString
  | .leading _ | .leadingBackslash _ => .missingUnit

/-- Why no value starts inside so many containers. -/
def valueReason (limits : Limits) (containers : Nat) : SyntaxReason :=
  if limits.depth ≤ containers then .depth else .value

/-- Why a text does not go on with `c` between two tokens. -/
def reasonBetween (limits : Limits) (s : State) (c : Char) : SyntaxReason :=
  match s.mode with
  | .value =>
    match s.frames with
    | .list _ :: _ => if c = ']' then .trailingComma else valueReason limits s.frames.length
    | _ => valueReason limits s.frames.length
  | .firstItem => valueReason limits (s.frames.length + 1)
  | .afterItem _ => .listEnd
  | .firstKey => .key
  | .nextKey _ => if c = '\x7d' then .trailingComma else .key
  | .colon .. => .colon
  | .afterMember _ => .objectEnd
  | .string .. | .number .. | .word .. | .done _ => .trailingCharacters

/-- Why a text does not go on with `c`. -/
def reasonAt (limits : Limits) (s : State) (c : Char) (rest : List Char) : SyntaxReason :=
  match s.mode with
  | .string _ _ escape => escapeReason escape c rest
  | .word .. => .word
  | .number n =>
    match n.part, digit? c, n.value? limits with
    | .leadingZero, some _, _ => .number
    | .whole, some _, _ => .numberTooLong
    | _, _, some v => reasonBetween limits (complete v s.frames) c
    | _, _, none => .number
  | _ => reasonBetween limits s c

/-- What is missing where a text ends between two tokens. -/
def reasonAtEndBetween (s : State) : SyntaxReason :=
  match s.mode with
  | .firstItem | .afterItem _ => .endInList
  | .firstKey | .colon .. | .afterMember _ => .endInObject
  | .string .. => .endInString
  | .value | .nextKey _ | .number _ | .word .. | .done _ => .endInValue

/-- What is missing where a text ends. -/
def reasonAtEnd (limits : Limits) (s : State) : SyntaxReason :=
  match s.mode with
  | .number n =>
    match n.value? limits with
    | some v => reasonAtEndBetween (complete v s.frames)
    | none => .endInValue
  | _ => reasonAtEndBetween s

def Stop.reason (limits : Limits) (halt : Stop Char) : SyntaxReason :=
  match halt.rest with
  | [] => reasonAtEnd limits halt.state
  | c :: rest => reasonAt limits halt.state c rest

end Machine

/-- The number of line feeds in a text, and of the bytes after the last one. -/
def lineAndWidth (cs : List Char) : Nat × Nat :=
  cs.foldl (fun (lines, width) c =>
    if c = '\n' then (lines + 1, 0) else (lines, width + c.utf8Size))
    (0, 0)

/-- An error at the character with this index, or at the end of the text. A line feed counts as
the first place, column 0, of the line that it starts. -/
def SyntaxError.at (reason : SyntaxReason) (cs : List Char) (index : Nat) : SyntaxError :=
  match cs.drop index with
  | [] =>
    let (lines, width) := lineAndWidth cs
    ⟨reason, lines + 1, width⟩
  | c :: _ =>
    let (lines, width) := lineAndWidth (cs.take index)
    if c = '\n' then ⟨reason, lines + 2, 0⟩ else ⟨reason, lines + 1, width + 1⟩

/-- The error of a text that is refused. What is only known at the end of the text is reported
there, and a number that is too long at its first character too many but one. -/
def syntaxError (limits : Machine.Limits) (cs : List Char) : SyntaxError :=
  let stop := Machine.stop (Machine.step limits) 0 Machine.initial cs
  let reason := stop.reason limits
  let index := match reason with
    | .endInString => cs.length
    | .numberTooLong => stop.position + 1
    | _ => stop.position
  .at reason cs index

def parse (limits : Machine.Limits) (s : String) : Except SyntaxError Json :=
  let cs := s.toList
  match (Machine.feed (Machine.step limits) Machine.initial cs).bind (Machine.result? limits) with
  | some v => .ok v
  | none => .error (syntaxError limits cs)

end RayScene.Json
