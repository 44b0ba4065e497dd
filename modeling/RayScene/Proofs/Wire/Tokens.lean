import RayScene.Proofs.Number.Reading
import RayScene.Scene.Wire
import Mathlib.Data.List.Basic

/-!
# Tokens of the wire text

What is written is written as it is spelled, and only integers with too many digits are not written
(`Number.token?_eq_some_iff`, `Wire.text?_eq_some_iff`).

Blanks and line ends set tokens apart, and it does not matter which of them or how many. The tokens
of the whole text are the tokens of its numbers, line by line (`tokens_text`).
-/

namespace RayScene

/-- A partial function along a list, if it is known where it has a value and which. -/
theorem mapM_eq_some_iff {α β : Type} {f : α → Option β} {g : α → β} {p : α → Prop}
    (values : ∀ a b, f a = some b ↔ p a ∧ b = g a) (as : List α) (bs : List β) :
    as.mapM f = some bs ↔ (∀ a ∈ as, p a) ∧ bs = as.map g := by
  induction as generalizing bs with
  | nil => simp [eq_comm]
  | cons a as ih =>
    simp only [List.mapM_cons, Option.bind_eq_bind, Option.bind_eq_some_iff, Option.pure_def,
      Option.some.injEq, values, ih, List.forall_mem_cons, List.map_cons]
    constructor
    · rintro ⟨b, ⟨first, rfl⟩, bs', ⟨others, rfl⟩, rfl⟩
      exact ⟨⟨first, others⟩, rfl⟩
    · rintro ⟨⟨first, others⟩, rfl⟩
      exact ⟨_, ⟨first, rfl⟩, _, ⟨others, rfl⟩, rfl⟩

theorem Text.writeInteger?_eq_some_iff {n : ℤ} {t : String} :
    Text.writeInteger? n = some t ↔ n.natAbs < 10 ^ integerDigitLimit ∧ t = toString n := by
  rw [writeInteger?, ← Nat.length_toDigits_le_iff (by decide) (by decide)]
  split <;> simp_all [eq_comm]

namespace Number

/-- The digits and signs of a number, however many there are. -/
def spelled : Number → String
  | int n => toString n
  | bool b => if b then "1" else "0"
  | float x => floatToken x

def IsWritable : Number → Prop
  | int n => n.natAbs < 10 ^ Text.integerDigitLimit
  | _ => True

instance : (x : Number) → Decidable x.IsWritable
  | int n => inferInstanceAs (Decidable (n.natAbs < 10 ^ Text.integerDigitLimit))
  | bool _ => .isTrue trivial
  | float _ => .isTrue trivial

theorem isWritable_pow_iff (n : Nat) :
    (int (10 ^ n)).IsWritable ↔ n < Text.integerDigitLimit := by
  have base : Int.natAbs 10 = 10 := rfl
  rw [IsWritable, Int.natAbs_pow, base, Nat.pow_lt_pow_iff_right (by decide)]

theorem token?_eq_some_iff (x : Number) (t : String) :
    x.token? = some t ↔ x.IsWritable ∧ t = x.spelled := by
  cases x with
  | int n => exact Text.writeInteger?_eq_some_iff
  | bool b => simp [token?, IsWritable, spelled, eq_comm]
  | float x => simp [token?, IsWritable, spelled, eq_comm]

end Number

namespace Wire

def lineSpelled (numbers : List Number) : String :=
  String.intercalate " " (numbers.map Number.spelled)

theorem lineText?_eq_some_iff (numbers : List Number) (t : String) :
    lineText? numbers = some t ↔ (∀ x ∈ numbers, x.IsWritable) ∧ t = lineSpelled numbers := by
  simp only [lineText?, Option.map_eq_some_iff, mapM_eq_some_iff Number.token?_eq_some_iff]
  exact ⟨fun ⟨_, ⟨writable, same⟩, joined⟩ => ⟨writable, by rw [← joined, same, lineSpelled]⟩,
    fun ⟨writable, same⟩ => ⟨_, ⟨writable, rfl⟩, same.symm⟩⟩

namespace Line

def spelled : Line → String
  | numbers values => lineSpelled values
  | indices values => String.intercalate " " (values.map toString)

theorem spelled_numbers (values : List Number) : (numbers values).spelled = lineSpelled values :=
  rfl

def IsWritable : Line → Prop
  | numbers values => ∀ x ∈ values, x.IsWritable
  | indices _ => True

theorem text?_eq_some_iff (line : Line) (t : String) :
    line.text? = some t ↔ line.IsWritable ∧ t = line.spelled := by
  cases line with
  | numbers values => exact lineText?_eq_some_iff values t
  | indices values => simp [text?, IsWritable, spelled, eq_comm]

end Line

def spelled (w : Wire) : String :=
  String.intercalate "\n" (w.lines.map Line.spelled) ++ "\n"

def IsWritable (w : Wire) : Prop := ∀ line ∈ w.lines, line.IsWritable

theorem text?_eq_some_iff (w : Wire) (t : String) :
    w.text? = some t ↔ w.IsWritable ∧ t = w.spelled := by
  simp only [text?, Option.map_eq_some_iff, mapM_eq_some_iff Line.text?_eq_some_iff]
  exact ⟨fun ⟨_, ⟨writable, same⟩, joined⟩ => ⟨writable, by rw [← joined, same, spelled]⟩,
    fun ⟨writable, same⟩ => ⟨_, ⟨writable, rfl⟩, same.symm⟩⟩

def tokens (cs : List Char) : List (List Char) :=
  (cs.splitOnP Text.isSpacing).filter fun t => !t.isEmpty

/-- A token: it is not empty and nothing in it sets tokens apart. -/
def IsToken (t : List Char) : Prop := t ≠ [] ∧ ∀ c ∈ t, Text.isSpacing c = false

theorem tokens_nil : tokens [] = [] := rfl

theorem tokens_append_cons (cs ds : List Char) {sep : Char} (spacing : Text.isSpacing sep = true) :
    tokens (cs ++ sep :: ds) = tokens cs ++ tokens ds := by
  rw [tokens, List.splitOnP_append_cons cs ds spacing, List.filter_append]
  rfl

theorem tokens_of_isToken {t : List Char} (h : IsToken t) : tokens t = [t] := by
  obtain ⟨nonempty, together⟩ := h
  rw [tokens, List.splitOnP_eq_singleton together]
  exact List.filter_cons_of_pos (by cases t <;> simp at nonempty ⊢)

theorem tokens_intercalate {sep : Char} (spacing : Text.isSpacing sep = true) :
    ∀ parts : List (List Char), tokens ([sep].intercalate parts) = parts.flatMap tokens
  | [] => rfl
  | [part] => by rw [List.intercalate_singleton, List.flatMap_singleton]
  | part :: next :: rest => by
    rw [List.intercalate_cons_cons, List.append_assoc, List.singleton_append,
      tokens_append_cons part _ spacing, tokens_intercalate spacing (next :: rest)]
    rfl

/-! ### Tokens of numbers -/

theorem isSpacing_digit {c : Char} (h : c.isDigit = true) : Text.isSpacing c = false := by
  have range : 48 ≤ c.toNat ∧ c.toNat ≤ 57 := by
    simpa [Char.isDigit, UInt32.le_iff_toNat_le] using h
  obtain ⟨low, high⟩ := range
  simp [Text.isSpacing, Text.isBlank, Text.blankRanges]
  omega

theorem isSpacing_of_any {cs : List Char} (h : cs.any Text.isSpacing = false) :
    ∀ c ∈ cs, Text.isSpacing c = false := by
  intro c member
  exact eq_false_of_ne_true (List.any_eq_false.mp h c member)

theorem isSpacing_digits {cs : List Char} (h : Decimal.AllDigits cs) :
    ∀ c ∈ cs, Text.isSpacing c = false :=
  fun c member => isSpacing_digit (h c member)

theorem isSpacing_append {cs ds : List Char} (hc : ∀ c ∈ cs, Text.isSpacing c = false)
    (hd : ∀ c ∈ ds, Text.isSpacing c = false) : ∀ c ∈ cs ++ ds, Text.isSpacing c = false := by
  intro c member
  rcases List.mem_append.mp member with h | h
  · exact hc c h
  · exact hd c h

theorem isSpacing_cons {b : Char} {cs : List Char} (hb : Text.isSpacing b = false)
    (hc : ∀ c ∈ cs, Text.isSpacing c = false) : ∀ c ∈ b :: cs, Text.isSpacing c = false := by
  intro c member
  rcases List.mem_cons.mp member with rfl | h
  · exact hb
  · exact hc c h

theorem isSpacing_toString (n : ℤ) : ∀ c ∈ (toString n).toList, Text.isSpacing c = false := by
  rw [Decimal.toList_toString]
  refine isSpacing_append ?_ (isSpacing_digits (Decimal.allDigits_toDigits _))
  split <;> exact isSpacing_of_any rfl

theorem isSpacing_positional {ds : List Char} (hd : Decimal.AllDigits ds) (whole : ℤ) :
    ∀ c ∈ FloatStyle.positional ds whole, Text.isSpacing c = false := by
  have zeros (n : Nat) := isSpacing_digits (Decimal.allDigits_zeros n)
  unfold FloatStyle.positional
  split
  · exact isSpacing_cons (by decide)
      (isSpacing_cons (by decide) (isSpacing_append (zeros _) (isSpacing_digits hd)))
  split
  · exact isSpacing_append (isSpacing_append (isSpacing_digits hd) (zeros _))
      (isSpacing_of_any rfl)
  · exact isSpacing_append (fun c h => isSpacing_digit (hd c (List.mem_of_mem_take h)))
      (isSpacing_cons (by decide) fun c h => isSpacing_digit (hd c (List.mem_of_mem_drop h)))

theorem isSpacing_exponentText (style : FloatStyle) (e : ℤ) :
    ∀ c ∈ style.exponentText e, Text.isSpacing c = false := by
  unfold FloatStyle.exponentText
  refine isSpacing_cons (by split <;> decide) (isSpacing_append ?_ ?_)
  · exact isSpacing_digits (Decimal.allDigits_zeros _)
  · exact isSpacing_digits (Decimal.allDigits_toDigits _)

theorem isSpacing_scientific (style : FloatStyle) {ds : List Char} (hd : Decimal.AllDigits ds)
    (e : ℤ) : ∀ c ∈ style.scientific ds e, Text.isSpacing c = false := by
  unfold FloatStyle.scientific
  refine isSpacing_append (isSpacing_append ?_ ?_)
    (isSpacing_cons (by decide) (isSpacing_exponentText style e))
  · exact fun c h => isSpacing_digit (hd c (List.mem_of_mem_take h))
  · cases ds with
    | nil => exact fun c h => absurd h List.not_mem_nil
    | cons d ds =>
      cases ds with
      | nil => exact fun c h => absurd h List.not_mem_nil
      | cons d' ds =>
        exact isSpacing_cons (by decide)
          fun c h => isSpacing_digit (hd c (List.mem_cons_of_mem _ h))

theorem isSpacing_write (style : FloatStyle) (x : Float) :
    ∀ c ∈ (style.write x).toList, Text.isSpacing c = false := by
  have sign : ∀ c ∈ (if Double.isNegative x then ['-'] else []), Text.isSpacing c = false := by
    split <;> exact isSpacing_of_any rfl
  unfold FloatStyle.write
  dsimp only
  split
  · rw [String.toList_ofList]
    refine isSpacing_append sign ?_
    unfold FloatStyle.unsigned
    dsimp only
    split
    · exact isSpacing_of_any rfl
    split
    · exact isSpacing_positional (Decimal.allDigits_toDigits _) _
    · exact isSpacing_scientific style (Decimal.allDigits_toDigits _) _
  split
  · rw [String.toList_ofList]
    exact isSpacing_append sign (isSpacing_of_any rfl)
  · exact isSpacing_of_any rfl

theorem isToken_floatToken (x : Float) : IsToken (Number.floatToken x).toList := by
  refine ⟨?_, ?_⟩
  · intro empty
    have read := Value.ofChars?_floatToken x
    rw [empty] at read
    simp [Value.ofChars?, Decimal.ofChars?, Decimal.unsigned?, Text.splitSign] at read
  · unfold Number.floatToken
    split
    · split
      · exact isSpacing_toString _
      · exact isSpacing_write _ x
    · exact isSpacing_write _ x

theorem isToken_toString (n : ℤ) : IsToken (toString n).toList := by
  refine ⟨?_, isSpacing_toString n⟩
  intro empty
  have read := Decimal.integer?_toString n
  rw [empty] at read
  cases read

theorem isToken_spelled (x : Number) : IsToken x.spelled.toList := by
  cases x with
  | int n => exact isToken_toString n
  | bool b => cases b <;> exact ⟨by decide, isSpacing_of_any rfl⟩
  | float x => exact isToken_floatToken x

def numberTokens (numbers : List Number) : List (List Char) :=
  numbers.map fun x => x.spelled.toList

def lineTokens : Line → List (List Char)
  | .numbers values => numberTokens values
  | .indices values => values.map fun n => (toString n).toList

theorem tokens_spaced {α : Type} {spell : α → String} (isToken : ∀ a, IsToken (spell a).toList)
    (as : List α) :
    tokens (String.intercalate " " (as.map spell)).toList = as.map fun a => (spell a).toList := by
  rw [String.toList_intercalate, List.map_map, show " ".toList = [' '] from rfl,
    tokens_intercalate rfl, List.flatMap_map]
  induction as with
  | nil => rfl
  | cons a as ih =>
    rw [List.flatMap_cons, ih]
    dsimp only [Function.comp]
    rw [tokens_of_isToken (isToken a)]
    rfl

theorem tokens_lineSpelled (numbers : List Number) :
    tokens (lineSpelled numbers).toList = numberTokens numbers :=
  tokens_spaced isToken_spelled numbers

theorem tokens_spelledLine (line : Line) : tokens line.spelled.toList = lineTokens line := by
  cases line with
  | numbers values => exact tokens_lineSpelled values
  | indices values => exact tokens_spaced isToken_toString values

theorem tokens_spelled (w : Wire) : tokens w.spelled.toList = w.lines.flatMap lineTokens := by
  rw [spelled, String.toList_append, show "\n".toList = '\n' :: [] from rfl,
    tokens_append_cons _ [] rfl, tokens_nil, List.append_nil, String.toList_intercalate,
    show "\n".toList = ['\n'] from rfl, tokens_intercalate rfl, List.map_map, List.flatMap_map]
  congr 1
  funext line
  exact tokens_spelledLine line

theorem tokens_text {w : Wire} {t : String} (written : w.text? = some t) :
    tokens t.toList = w.lines.flatMap lineTokens := by
  rw [((text?_eq_some_iff w t).mp written).2, tokens_spelled]

/-! ### Lines of a text -/

/-- These are the lines of the text, and each of them is ended by a line feed. -/
def HasLines (text : String) (lines : List String) : Prop :=
  text.toList.splitOn '\n' = lines.map String.toList ++ [[]]

theorem notMem_intercalate {a sep : Char} (other : a ≠ sep) :
    ∀ {parts : List (List Char)}, (∀ part ∈ parts, a ∉ part) → a ∉ [sep].intercalate parts
  | [], _ => List.not_mem_nil
  | [part], h => by
    rw [List.intercalate_singleton]
    exact h part List.mem_cons_self
  | part :: next :: rest, h => by
    rw [List.forall_mem_cons] at h
    rw [List.intercalate_cons_cons, List.mem_append, List.mem_append, List.mem_singleton]
    rintro ((inside | same) | inside)
    · exact h.1 inside
    · exact other same
    · exact notMem_intercalate other h.2 inside

theorem lineFeed_notMem_spaced {α : Type} {spell : α → String}
    (isToken : ∀ a, IsToken (spell a).toList) (as : List α) :
    '\n' ∉ (String.intercalate " " (as.map spell)).toList := by
  rw [String.toList_intercalate, List.map_map]
  refine notMem_intercalate (by decide) ?_
  simp only [List.forall_mem_map]
  intro a _ inside
  cases (isToken a).2 _ inside

theorem lineFeed_notMem_spelled (line : Line) : '\n' ∉ line.spelled.toList := by
  cases line with
  | numbers values => exact lineFeed_notMem_spaced isToken_spelled values
  | indices values => exact lineFeed_notMem_spaced isToken_toString values

/-- No line can be taken for two or for a part of one. -/
theorem hasLines_text {w : Wire} {t : String} (written : w.text? = some t) :
    HasLines t (w.lines.map Line.spelled) := by
  have together : ∀ l ∈ w.lines.map (String.toList ∘ Line.spelled), '\n' ∉ l := by
    simp only [List.forall_mem_map]
    exact fun line _ => lineFeed_notMem_spelled line
  have lineful : w.lines.map (String.toList ∘ Line.spelled) ≠ [] := by simp [lines]
  have ended (cs : List Char) : (cs ++ ['\n']).splitOn '\n' = cs.splitOn '\n' ++ [[]] :=
    List.splitOnP_append_cons cs [] rfl
  rw [((text?_eq_some_iff w t).mp written).2, HasLines, spelled, String.toList_append,
    String.toList_intercalate, List.map_map]
  exact (ended _).trans (congrArg (· ++ [[]]) (List.splitOn_intercalate '\n' together lineful))

end Wire

end RayScene
