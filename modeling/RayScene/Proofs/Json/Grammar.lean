import RayScene.Json.Machine
import RayScene.Proofs.Number.Reading

/-!
# The grammar of JSON

Which texts spell a value. A relation of the grammar takes the characters before a piece, what the
piece spells, and the characters after it. The grammar is that of RFC 8259 with the words `NaN`,
`Infinity` and `-Infinity`, within limits; two escapes that make up a character are one character,
and a key stands in an object as often as in the text, with the last value each time.
-/

namespace RayScene.Json.Grammar

open Machine (Limits isWithin)

inductive Blank : List Char → List Char → Prop where
  | none (rest : List Char) : Blank rest rest
  | some {c : Char} {cs rest : List Char} :
      c ∈ [' ', '\t', '\n', '\r'] → Blank cs rest → Blank (c :: cs) rest

/-- The digits of a whole number; only zero itself starts with a zero. -/
structure Whole (limits : Limits) (negative : Bool) (ds : List Char) : Prop where
  digits : Decimal.AllDigits ds
  nonempty : ds ≠ []
  leading : ds.head? = some '0' → ds = ['0']
  width : isWithin limits.wholeDigits (limits.span negative ds.length) = true

inductive Fraction : List Char → List Char → List Char → Prop where
  | none (rest : List Char) : Fraction rest [] rest
  | places {ds rest : List Char} :
      Decimal.AllDigits ds → ds ≠ [] → Fraction ('.' :: (ds ++ rest)) ds rest

inductive Exponent : List Char → ℤ → List Char → Prop where
  | none (rest : List Char) : Exponent rest 0 rest
  | unsigned {mark : Char} {ds rest : List Char} : mark = 'e' ∨ mark = 'E' →
      Decimal.AllDigits ds → ds ≠ [] →
      Exponent (mark :: (ds ++ rest)) (Nat.ofDigitChars 10 ds 0) rest
  | plus {mark : Char} {ds rest : List Char} : mark = 'e' ∨ mark = 'E' →
      Decimal.AllDigits ds → ds ≠ [] →
      Exponent (mark :: '+' :: (ds ++ rest)) (Nat.ofDigitChars 10 ds 0) rest
  | minus {mark : Char} {ds rest : List Char} : mark = 'e' ∨ mark = 'E' →
      Decimal.AllDigits ds → ds ≠ [] →
      Exponent (mark :: '-' :: (ds ++ rest)) (-(Nat.ofDigitChars 10 ds 0 : ℤ)) rest

/-- A number after its sign: an integer, or a decimal if there is more than a whole part. -/
inductive Magnitude (limits : Limits) (negative : Bool) : List Char → Json → List Char → Prop where
  | integer {ds rest : List Char} : Whole limits negative ds →
      isWithin limits.integerDigits (limits.span negative ds.length) = true →
      Magnitude limits negative (ds ++ rest)
        (.int (if negative then -(Nat.ofDigitChars 10 ds 0 : ℤ) else Nat.ofDigitChars 10 ds 0)) rest
  | decimal {ds cs places mid rest : List Char} {e : ℤ} : Whole limits negative ds →
      Fraction cs places mid → Exponent mid e rest → cs ≠ rest →
      Magnitude limits negative (ds ++ cs)
        (.float (Decimal.toFloat ⟨negative, Nat.ofDigitChars 10 (ds ++ places) 0,
          e - places.length⟩)) rest

inductive Number (limits : Limits) : List Char → Json → List Char → Prop where
  | plain {cs rest : List Char} {v : Json} :
      Magnitude limits false cs v rest → Number limits cs v rest
  | negative {cs rest : List Char} {v : Json} :
      Magnitude limits true cs v rest → Number limits ('-' :: cs) v rest

/-- A character after a backslash and what it stands for. -/
def escapes : List (Char × Char) :=
  [('"', '"'), ('\\', '\\'), ('/', '/'), ('b', '\x08'), ('f', '\x0c'), ('n', '\n'), ('r', '\r'),
    ('t', '\t')]

/-- A unit as `u` and four hexadecimal digits, after a backslash. -/
inductive Unit : List Char → Nat → List Char → Prop where
  | digits {a b c d : Char} {i j k l : Nat} (rest : List Char) : Text.hexValue? a = some i →
      Text.hexValue? b = some j → Text.hexValue? c = some k → Text.hexValue? d = some l →
      Unit ('u' :: a :: b :: c :: d :: rest) (16 * (16 * (16 * i + j) + k) + l) rest

theorem ne_of_mem_escapes {c e : Char} (h : (c, e) ∈ escapes) : c ≠ 'u' := by
  rintro rfl
  have member : 'u' ∈ escapes.map Prod.fst := List.mem_map_of_mem h
  exact absurd member (by decide)

theorem head_of_unit {c : Char} {unit : Nat} {cs rest : List Char} (h : Unit (c :: cs) unit rest) :
    c = 'u' := by
  cases h
  rfl

def NoTrailing (cs : List Char) : Prop :=
  ∀ mid unit rest, cs = '\\' :: mid → Unit mid unit rest → Surrogate.isTrailing unit = false

/-- The rest of a string, its closing quote included. Two units make up a character wherever they
can; otherwise a surrogate stands by itself, if it may. -/
inductive Characters (limits : Limits) : List Char → List CodePoint → List Char → Prop where
  | close (rest : List Char) : Characters limits ('"' :: rest) [] rest
  | plain {c : Char} {cs rest : List Char} {ps : List CodePoint} : c ≠ '"' → c ≠ '\\' →
      0x20 ≤ c.toNat → Characters limits cs ps rest →
      Characters limits (c :: cs) (.char c :: ps) rest
  | escape {c e : Char} {cs rest : List Char} {ps : List CodePoint} : (c, e) ∈ escapes →
      Characters limits cs ps rest → Characters limits ('\\' :: c :: cs) (.char e :: ps) rest
  | unit {unit : Nat} {cs mid rest : List Char} {ps : List CodePoint} : Unit cs unit mid →
      Surrogate.isLeading unit = false → Surrogate.isTrailing unit = false →
      Characters limits mid ps rest →
      Characters limits ('\\' :: cs) (.char (Char.ofNat unit) :: ps) rest
  | pair {leading trailing : Nat} {cs cs' mid rest : List Char} {ps : List CodePoint} :
      Unit cs leading ('\\' :: cs') → Surrogate.isLeading leading = true →
      Unit cs' trailing mid → Surrogate.isTrailing trailing = true →
      Characters limits mid ps rest →
      Characters limits ('\\' :: cs) (.char (Surrogate.join leading trailing) :: ps) rest
  | trailing {unit : Nat} {cs mid rest : List Char} {ps : List CodePoint} :
      limits.surrogates = true → Unit cs unit mid → Surrogate.isTrailing unit = true →
      Characters limits mid ps rest → Characters limits ('\\' :: cs) (.surrogate unit :: ps) rest
  | leading {unit : Nat} {cs mid rest : List Char} {ps : List CodePoint} :
      limits.surrogates = true → Unit cs unit mid → Surrogate.isLeading unit = true →
      NoTrailing mid → Characters limits mid ps rest →
      Characters limits ('\\' :: cs) (.surrogate unit :: ps) rest

def words : List (String × Json) :=
  [("true", .bool true), ("false", .bool false), ("null", .null), ("NaN", .float (0.0 / 0.0)),
    ("Infinity", .float (Double.ofMagnitude false Double.infinity)),
    ("-Infinity", .float (Double.ofMagnitude true Double.infinity))]

inductive Key (limits : Limits) : List Char → LooseText → List Char → Prop where
  | spelled {cs start mid rest : List Char} {ps : List CodePoint} :
      Blank cs ('"' :: start) → Characters limits start ps mid → Blank mid (':' :: rest) →
      Key limits cs (.ofPoints ps) rest

mutual

/-- A value inside `depth` containers. -/
inductive Value (limits : Limits) : Nat → List Char → Json → List Char → Prop where
  | word {depth : Nat} {w : String} {v : Json} (rest : List Char) : (w, v) ∈ words →
      Value limits depth (w.toList ++ rest) v rest
  | number {depth : Nat} {cs rest : List Char} {v : Json} :
      Number limits cs v rest → Value limits depth cs v rest
  | string {depth : Nat} {cs rest : List Char} {ps : List CodePoint} :
      Characters limits cs ps rest → Value limits depth ('"' :: cs) (.str (.ofPoints ps)) rest
  | emptyList {depth : Nat} {cs rest : List Char} :
      Blank cs (']' :: rest) → Value limits depth ('[' :: cs) (.arr []) rest
  | list {depth : Nat} {cs rest : List Char} {vs : List Json} :
      Items limits (depth + 1) cs vs rest → Value limits depth ('[' :: cs) (.arr vs) rest
  | emptyObject {depth : Nat} {cs rest : List Char} :
      Blank cs ('\x7d' :: rest) → Value limits depth ('\x7b' :: cs) (.obj []) rest
  | object {depth : Nat} {cs rest : List Char} {fields : Fields} :
      Members limits (depth + 1) [] cs fields rest →
      Value limits depth ('\x7b' :: cs) (.obj fields) rest

/-- A value between white space, and the character after it. -/
inductive Part (limits : Limits) : Nat → List Char → Json → Char → List Char → Prop where
  | spelled {depth : Nat} {cs start mid rest : List Char} {v : Json} {c : Char} :
      depth < limits.depth → Blank cs start → Value limits depth start v mid →
      Blank mid (c :: rest) → Part limits depth cs v c rest

/-- One or more items, and the end of their list. -/
inductive Items (limits : Limits) : Nat → List Char → List Json → List Char → Prop where
  | last {depth : Nat} {cs rest : List Char} {v : Json} :
      Part limits depth cs v ']' rest → Items limits depth cs [v] rest
  | more {depth : Nat} {cs next rest : List Char} {v : Json} {vs : List Json} :
      Part limits depth cs v ',' next → Items limits depth next vs rest →
      Items limits depth cs (v :: vs) rest

/-- One or more members after the ones so far, and the end of their object. -/
inductive Members (limits : Limits) : Nat → Fields → List Char → Fields → List Char → Prop where
  | last {depth : Nat} {before : Fields} {cs mid rest : List Char} {key : LooseText} {v : Json} :
      Key limits cs key mid → Part limits depth mid v '\x7d' rest →
      Members limits depth before cs (before.put key v) rest
  | more {depth : Nat} {before fields : Fields} {cs mid next rest : List Char} {key : LooseText}
      {v : Json} : Key limits cs key mid → Part limits depth mid v ',' next →
      Members limits depth (before.put key v) next fields rest →
      Members limits depth before cs fields rest

end

/-- The text spells the value within the limits. -/
def Spells (limits : Limits) (text : String) (v : Json) : Prop :=
  0 < limits.depth ∧
    ∃ start rest, Blank text.toList start ∧ Value limits 0 start v rest ∧ Blank rest []

end RayScene.Json.Grammar
