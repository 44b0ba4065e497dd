import RayScene.Json.Basic
import RayScene.Text.Hex

/-!
# Written JSON

Two layouts: on one line (`Json.inline`) and one item per line (`Json.indented`). In strings only
the quote, the backslash, the characters below U+0020 and surrogates are escaped.
-/

namespace RayScene.Json

def escapeChar (c : Char) : List Char :=
  if c = '"' then ['\\', '"']
  else if c = '\\' then ['\\', '\\']
  else if c = '\x08' then ['\\', 'b']
  else if c = '\t' then ['\\', 't']
  else if c = '\n' then ['\\', 'n']
  else if c = '\x0c' then ['\\', 'f']
  else if c = '\r' then ['\\', 'r']
  else if c.toNat < 0x20 then '\\' :: 'u' :: Text.hexDigits c.toNat 4
  else [c]

def escapePoint : CodePoint → List Char
  | .char c => escapeChar c
  | .surrogate unit => '\\' :: 'u' :: Text.hexDigits unit 4

def quoteChars (s : LooseText) : List Char :=
  '"' :: s.points.flatMap escapePoint ++ ['"']

def intChars (n : Int) : List Char :=
  if n < 0 then '-' :: Nat.toDigits 10 n.natAbs else Nat.toDigits 10 n.natAbs

/-- A float; the values without digits have names of their own. -/
def floatChars (style : FloatStyle) (x : Float) : List Char :=
  if Double.isFinite x then (style.write x).toList
  else if Double.isInfinite x then
    if Double.isNegative x then "-Infinity".toList else "Infinity".toList
  else "NaN".toList

structure Spacing where
  /-- between two items -/
  comma : List Char
  /-- between a key and its value -/
  colon : List Char

/-- Without spaces: bodies of replies. -/
def Spacing.tight : Spacing := ⟨[','], [':']⟩

/-- With a space after each comma and colon: examples in prompts. -/
def Spacing.loose : Spacing := ⟨[',', ' '], [':', ' ']⟩

mutual

def inlineChars (sp : Spacing) : Json → List Char
  | null => "null".toList
  | bool b => if b then "true".toList else "false".toList
  | int n => intChars n
  | float x => floatChars .plain x
  | str s => quoteChars s
  | arr items => '[' :: itemsInline sp items ++ [']']
  | obj fields => '\x7b' :: fieldsInline sp fields ++ ['\x7d']

def itemsInline (sp : Spacing) : List Json → List Char
  | [] => []
  | [v] => inlineChars sp v
  | v :: rest => inlineChars sp v ++ sp.comma ++ itemsInline sp rest

def fieldsInline (sp : Spacing) : Fields → List Char
  | [] => []
  | [(k, v)] => quoteChars k ++ sp.colon ++ inlineChars sp v
  | (k, v) :: rest =>
    quoteChars k ++ sp.colon ++ inlineChars sp v ++ sp.comma ++ fieldsInline sp rest

end

def inline (sp : Spacing) (v : Json) : String := String.ofList (inlineChars sp v)

/-- A new line at a depth: two spaces for each level. -/
def newLine (depth : Nat) : List Char := '\n' :: List.replicate (2 * depth) ' '

mutual

/-- The value with one item per line; `depth` is the level of the line that it starts on. -/
def indentedChars (depth : Nat) : Json → List Char
  | null => "null".toList
  | bool b => if b then "true".toList else "false".toList
  | int n => intChars n
  | float x => floatChars .stored x
  | str s => quoteChars s
  | arr [] => ['[', ']']
  | arr (v :: rest) =>
    '[' :: newLine (depth + 1) ++ indentedChars (depth + 1) v ++ itemsIndented (depth + 1) rest ++
      newLine depth ++ [']']
  | obj [] => ['\x7b', '\x7d']
  | obj ((k, v) :: rest) =>
    '\x7b' :: newLine (depth + 1) ++ quoteChars k ++ [':', ' '] ++ indentedChars (depth + 1) v ++
      fieldsIndented (depth + 1) rest ++ newLine depth ++ ['\x7d']

def itemsIndented (depth : Nat) : List Json → List Char
  | [] => []
  | v :: rest => ',' :: newLine depth ++ indentedChars depth v ++ itemsIndented depth rest

def fieldsIndented (depth : Nat) : Fields → List Char
  | [] => []
  | (k, v) :: rest =>
    ',' :: newLine depth ++ quoteChars k ++ [':', ' '] ++ indentedChars depth v ++
      fieldsIndented depth rest

end

def indented (v : Json) : String := String.ofList (indentedChars 0 v)

end RayScene.Json
