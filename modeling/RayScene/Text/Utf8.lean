import RayScene.Text.Hex
import RayScene.Text.Loose

/-!
# UTF-8

`Utf8.scan` splits bytes into characters and malformed runs; a malformed run is the longest start
of a character that cannot be completed, or a single byte that starts none. Strict decoding
(`Utf8.decode`) stops at the first malformed run and names it, lenient decoding
(`Utf8.decodeLossy`) shows each run as one U+FFFD. Text with surrogates has no encoding.
-/

namespace RayScene

/-- Contents of files, standard streams and bodies. -/
abbrev Bytes := List UInt8

namespace Utf8

def encode (s : String) : Bytes := s.toList.flatMap String.utf8EncodeChar

inductive Defect where
  | startByte
  | continuationByte
  | endOfData
deriving DecidableEq

inductive Piece where
  | char (c : Char)
  | malformed (defect : Defect) (run : Bytes)
deriving DecidableEq

/-- A character whose first bytes have been read. -/
structure Pending where
  /-- the bytes read, last first -/
  seen : Bytes
  /-- the payload bits read -/
  value : Nat
  /-- how many bytes follow the next one -/
  further : Nat
  /-- the least and the greatest byte that may come next -/
  least : UInt8
  greatest : UInt8
deriving DecidableEq

/-- What a byte that starts a character leads to. -/
inductive Start where
  | char (c : Char)
  | pending (p : Pending)
  | invalid
deriving DecidableEq

/-- Reads a first byte. The bounds on the second byte keep out overlong forms, surrogates and
values beyond U+10FFFF. -/
def start (b : UInt8) : Start :=
  let bits (count : Nat) : Nat := b.toNat % Nat.pow 2 count
  if b < 0x80 then .char (Char.ofNat b.toNat)
  else if b < 0xC2 then .invalid
  else if b < 0xE0 then .pending ⟨[b], bits 5, 0, 0x80, 0xBF⟩
  else if b < 0xF0 then
    .pending ⟨[b], bits 4, 1, if b = 0xE0 then 0xA0 else 0x80, if b = 0xED then 0x9F else 0xBF⟩
  else if b < 0xF5 then
    .pending ⟨[b], bits 3, 2, if b = 0xF0 then 0x90 else 0x80, if b = 0xF4 then 0x8F else 0xBF⟩
  else .invalid

/-- Whether a byte continues the character. -/
def Pending.accepts (p : Pending) (b : UInt8) : Bool := p.least ≤ b && b ≤ p.greatest

def Pending.push (p : Pending) (b : UInt8) : Start :=
  let value := 64 * p.value + b.toNat % 64
  match p.further with
  | 0 => .char (Char.ofNat value)
  | n + 1 => .pending ⟨b :: p.seen, value, n, 0x80, 0xBF⟩

/-- The run that a character broken off leaves. -/
def Pending.broken (p : Pending) (defect : Defect) : Piece := .malformed defect p.seen.reverse

/-- The pieces after a state that was reached by reading `b`. -/
def resume (b : UInt8) (next : Start) (rest : Option Pending → List Piece) : List Piece :=
  match next with
  | .char c => .char c :: rest none
  | .pending p => rest (some p)
  | .invalid => .malformed .startByte [b] :: rest none

/-- The pieces of the bytes that follow what is pending. -/
def scanFrom : Option Pending → Bytes → List Piece
  | none, [] => []
  | some p, [] => [p.broken .endOfData]
  | none, b :: bs => resume b (start b) fun state => scanFrom state bs
  | some p, b :: bs =>
    if p.accepts b then resume b (p.push b) fun state => scanFrom state bs
    else p.broken .continuationByte :: resume b (start b) fun state => scanFrom state bs

def scan (bytes : Bytes) : List Piece := scanFrom none bytes

/-- The bytes of a text up to a malformed run, and that run. -/
structure Malformed where
  position : Nat
  defect : Defect
  run : Bytes
deriving DecidableEq

/-- Reads pieces as text; `position` counts the bytes before them. -/
def collect (position : Nat) (text : List Char) : List Piece → Except Malformed (List Char)
  | [] => .ok text.reverse
  | .char c :: rest => collect (position + c.utf8Size) (c :: text) rest
  | .malformed defect run :: _ => .error ⟨position, defect, run⟩

def decode (bytes : Bytes) : Except Malformed String :=
  (collect 0 [] (scan bytes)).map String.ofList

def decodeLossy (bytes : Bytes) : String :=
  String.ofList ((scan bytes).map fun
    | .char c => c
    | .malformed .. => '\uFFFD')

def Defect.text : Defect → String
  | startByte => "invalid start byte"
  | continuationByte => "invalid continuation byte"
  | endOfData => "unexpected end of data"

/-- The message about a malformed run: its byte if it is one, else its first and last position. -/
def Malformed.message (m : Malformed) : String :=
  let place := match m.run with
    | [b] => "byte 0x" ++ String.ofList (Text.hexDigits b.toNat 2) ++ " in position " ++
        toString m.position
    | run => "bytes in position " ++ toString m.position ++ "-" ++
        toString (m.position + run.length - 1)
  "'utf-8' codec can't decode " ++ place ++ ": " ++ m.defect.text

/-- The first surrogates of a text that has no encoding. -/
structure Unencodable where
  /-- how many characters come before them -/
  position : Nat
  unit : Nat
  /-- how many more follow the first one at once -/
  further : Nat
deriving DecidableEq

def Unencodable.message (u : Unencodable) : String :=
  let place := if u.further = 0 then
      "character '\\u" ++ String.ofList (Text.hexDigits u.unit 4) ++ "' in position " ++
        toString u.position
    else "characters in position " ++ toString u.position ++ "-" ++
      toString (u.position + u.further)
  "'utf-8' codec can't encode " ++ place ++ ": surrogates not allowed"

/-- A text that can be encoded. -/
def encodable : LooseText → Except Unencodable String
  | .proper s => .ok s
  | .broken before unit after =>
    .error ⟨before.length, unit,
      (after.takeWhile fun | .char _ => false | .surrogate _ => true).length⟩

end Utf8

end RayScene
