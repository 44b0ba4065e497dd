import RayScene.Proofs.Wire.Numerals

/-!
# How numbers are spelled

Every number has a token but an integer with more than 4300 digits. The token of a finite number can
be read back: an integer, a truth value and an integral float below 10^16 in magnitude are spelled
as exact integers, and every other float as a decimal that is read as that float. Tokens stay apart
in a line (`token_spells`).
-/

namespace RayScene

namespace Decimal

def IsMarked (cs : List Char) : Prop := ∃ c ∈ cs, c = '.' ∨ c = 'e'

theorem IsMarked.append_left {ds : List Char} (h : IsMarked ds) (cs : List Char) :
    IsMarked (cs ++ ds) := by
  obtain ⟨c, member, mark⟩ := h
  exact ⟨c, List.mem_append_right cs member, mark⟩

theorem integer?_of_isMarked {cs : List Char} (h : IsMarked cs) : integer? cs = none := by
  obtain ⟨c, member, mark⟩ := h
  have inBody : c ∈ (Text.splitSign cs).2 := by
    unfold Text.splitSign
    split
    · exact (List.mem_cons.mp member).resolve_left (by rintro rfl; revert mark; decide)
    · exact (List.mem_cons.mp member).resolve_left (by rintro rfl; revert mark; decide)
    · exact member
  rw [integer?]
  refine if_neg fun digits => ?_
  have digit := List.all_eq_true.mp digits.2 c inBody
  rcases mark with rfl | rfl
  · exact absurd digit (by decide)
  · exact absurd digit (by decide)

theorem isMarked_positional (ds : List Char) (whole : ℤ) :
    IsMarked (FloatStyle.positional ds whole) := by
  unfold FloatStyle.positional
  split
  · exact ⟨'.', by simp, .inl rfl⟩
  split
  · exact ⟨'.', by simp, .inl rfl⟩
  · exact ⟨'.', by simp, .inl rfl⟩

theorem isMarked_unsigned (style : FloatStyle) (n : Nat) (place : ℤ) :
    IsMarked (style.unsigned n place) := by
  unfold FloatStyle.unsigned
  dsimp only
  split
  · exact ⟨'.', by decide, .inl rfl⟩
  split
  · exact isMarked_positional _ _
  · exact ⟨'e', by simp [FloatStyle.scientific], .inr rfl⟩

/-- In every style a written finite double is no integer, even where it equals one. -/
theorem integer?_write (style : FloatStyle) {x : Float} (finite : Double.isFinite x = true) :
    integer? (style.write x).toList = none := by
  refine integer?_of_isMarked ?_
  rw [FloatStyle.write, if_pos finite, String.toList_ofList]
  exact (isMarked_unsigned style _ _).append_left _

end Decimal

namespace Number

/-- The number is written as the integer `n`: it equals `n`, and if it is a float it is below 10^16
in magnitude. -/
structure IsPlain (x : Number) (n : ℤ) : Prop where
  value : x.value = .finite n
  small : ∀ y, x = .float y → n.natAbs < 10 ^ 16

structure IsSpelling (x : Number) (t : List Char) : Prop where
  isToken : Wire.IsToken t
  /-- digits, after a sign if the integer is negative -/
  plain : ∀ n, x.IsPlain n → t = (if n < 0 then ['-'] else []) ++ Nat.toDigits 10 n.natAbs ∧
    Decimal.integer? t = some n
  /-- the same float, not only one that is equal -/
  float : (∀ n, ¬ x.IsPlain n) → ∃ y d, x = .float y ∧ Decimal.ofChars? t = some d ∧ d.toFloat = y

theorem spelled_of_isPlain {x : Number} {n : ℤ} (h : x.IsPlain n) :
    x.spelled = (int n).spelled := by
  obtain ⟨value, small⟩ := h
  cases x with
  | int k =>
    have same : (k : ℚ) = n := Value.finite.inj value
    rw [Int.cast_inj.mp same]
  | bool b =>
    have same : ((if b then 1 else 0 : ℤ) : ℚ) = n := by
      rw [← Value.finite.inj value]
      cases b <;> simp
    rw [← Int.cast_inj.mp same]
    cases b <;> rfl
  | float y =>
    have integral : Double.toInt? y = some n := Double.toInt?_eq_some_iff.mpr value
    show floatToken y = toString n
    rw [floatToken, integral]
    exact if_pos (small y rfl)

theorem isWritable_of_isPlain {x : Number} {n : ℤ} (h : x.IsPlain n) :
    x.IsWritable ↔ (int n).IsWritable := by
  cases x with
  | int k =>
    have same : (k : ℚ) = n := Value.finite.inj h.value
    rw [Int.cast_inj.mp same]
  | bool b =>
    refine iff_of_true trivial (isWritable_of_natAbs_lt ?_)
    have same : ((if b then 1 else 0 : ℤ) : ℚ) = n := by
      rw [← Value.finite.inj h.value]
      cases b <;> simp
    rw [← Int.cast_inj.mp same]
    cases b <;> decide
  | float y =>
    exact iff_of_true trivial
      ((h.small y rfl).trans_le (Nat.pow_le_pow_right (by decide) (by decide)))

/-- A number has the token of the integer that it is written as, and has none if that has none. -/
theorem token?_of_isPlain {x : Number} {n : ℤ} (h : x.IsPlain n) :
    x.token? = (int n).token? := by
  refine Option.ext fun t => ?_
  rw [token?_eq_some_iff, token?_eq_some_iff, isWritable_of_isPlain h, spelled_of_isPlain h]

/-- Only floats are not written as integers. -/
theorem spelled_of_not_isPlain {x : Number} (h : ∀ n, ¬ x.IsPlain n) :
    ∃ y, x = .float y ∧ x.spelled = FloatStyle.plain.write y := by
  cases x with
  | int n => exact absurd ⟨rfl, nofun⟩ (h n)
  | bool b =>
    refine absurd ⟨?_, nofun⟩ (h (if b then 1 else 0))
    cases b <;> rfl
  | float y =>
    refine ⟨y, rfl, ?_⟩
    show floatToken y = _
    unfold floatToken
    split
    · rename_i n integral
      refine if_neg fun small => h n ⟨Double.toInt?_eq_some_iff.mp integral, ?_⟩
      exact fun _ _ => small
    · rfl

theorem isSpelling_spelled {x : Number} (finite : x.IsFinite) :
    x.IsSpelling x.spelled.toList where
  isToken := Wire.isToken_spelled x
  plain n h := by
    rw [spelled_of_isPlain h]
    exact ⟨Decimal.toList_toString n, Decimal.integer?_toString n⟩
  float h := by
    obtain ⟨y, rfl, written⟩ := spelled_of_not_isPlain h
    obtain ⟨d, read, same⟩ := Decimal.ofChars?_write FloatStyle.plain finite
    exact ⟨y, d, rfl, written ▸ read, same⟩

end Number

/-- What a token spells: an integer of any size exactly, and all else as the nearest double. -/
def Value.ofToken? (t : List Char) : Option Value :=
  match Decimal.integer? t with
  | some n => some (.finite n)
  | none => Value.ofChars? t

namespace Number

theorem ofToken?_spelled {x : Number} (finite : x.IsFinite) :
    Value.ofToken? x.spelled.toList = some x.value := by
  by_cases plain : ∃ n, x.IsPlain n
  · obtain ⟨n, plain⟩ := plain
    rw [plain.value, Value.ofToken?, ((isSpelling_spelled finite).plain n plain).2]
  · obtain ⟨y, rfl, written⟩ := spelled_of_not_isPlain (not_exists.mp plain)
    rw [written, Value.ofToken?, Decimal.integer?_write _ finite]
    exact Value.ofChars?_write _ y

theorem value_of_token?_eq {x y : Number} (hx : x.IsFinite) (hy : y.IsFinite) {t : String}
    (tokenX : x.token? = some t) (tokenY : y.token? = some t) : x.value = y.value := by
  have read := ofToken?_spelled hx
  rw [← ((token?_eq_some_iff x t).mp tokenX).2, ((token?_eq_some_iff y t).mp tokenY).2,
    ofToken?_spelled hy] at read
  exact (Option.some.inj read).symm

theorem isWritable_int_iff (n : ℤ) : (int n).IsWritable ↔ n.natAbs < 10 ^ 4300 := by
  rw [IsWritable, Text.integerDigitLimit]

theorem exists_token?_iff (x : Number) :
    (∃ t, x.token? = some t) ↔ ∀ n, x = int n → n.natAbs < 10 ^ 4300 := by
  simp only [token?_eq_some_iff, ← isWritable_int_iff]
  constructor
  · rintro ⟨_, writable, _⟩ n rfl
    exact writable
  · intro short
    refine ⟨_, ?_, rfl⟩
    cases x with
    | int n => exact short n rfl
    | bool b => trivial
    | float x => trivial

end Number

/-! ### Lines -/

namespace Wire

/-- There is one blank between each two tokens of a line, and none elsewhere. -/
theorem splitOn_lineSpelled {numbers : List Number} (nonempty : numbers ≠ []) :
    (lineSpelled numbers).toList.splitOn ' ' = numberTokens numbers := by
  have together : ∀ t ∈ numberTokens numbers, ' ' ∉ t := by
    intro t member blank
    obtain ⟨x, _, rfl⟩ := List.mem_map.mp member
    cases (isToken_spelled x).2 ' ' blank
  rw [lineSpelled, String.toList_intercalate, List.map_map]
  exact List.splitOn_intercalate ' ' together (mt List.map_eq_nil_iff.mp nonempty)

/-- A written line is the tokens of its numbers, in order and each by itself. -/
structure Spaces (numbers : List Number) (text : String) (ts : List String) : Prop where
  tokens : numbers.mapM Number.token? = some ts
  read : Wire.tokens text.toList = ts.map String.toList
  split : numbers ≠ [] → text.toList.splitOn ' ' = ts.map String.toList

theorem spaces_of_lineText? {numbers : List Number} {text : String}
    (written : lineText? numbers = some text) : ∃ ts, Spaces numbers text ts := by
  obtain ⟨writable, rfl⟩ := (lineText?_eq_some_iff numbers text).mp written
  have each := (mapM_eq_some_iff Number.token?_eq_some_iff numbers _).mpr ⟨writable, rfl⟩
  refine ⟨_, each, ?_, fun nonempty => ?_⟩
  · rw [tokens_lineSpelled, numberTokens, List.map_map]
    rfl
  · rw [splitOn_lineSpelled nonempty, numberTokens, List.map_map]
    rfl

theorem exists_lineText?_iff (numbers : List Number) :
    (∃ text, lineText? numbers = some text) ↔ ∀ x ∈ numbers, ∃ t, x.token? = some t := by
  simp [lineText?_eq_some_iff, Number.token?_eq_some_iff]

end Wire

namespace Number
open Wire

/-- Each number has a token, unless it is an integer with more than 4300 digits. From the token of a
finite number the number can be read back, finite numbers with the same token are equal, and a
number that is written as an integer has the token of the integer. A line can be written if each
number has a token, and it has the tokens of its numbers, whatever the numbers are. -/
theorem token_spells :
    (∀ x : Number, (∃ t, x.token? = some t) ↔ ∀ n, x = int n → n.natAbs < 10 ^ 4300) ∧
    (∀ (x : Number) (t : String), x.IsFinite → x.token? = some t → x.IsSpelling t.toList) ∧
    (∀ (x y : Number) (t : String), x.IsFinite → y.IsFinite → x.token? = some t →
      y.token? = some t → x.value = y.value) ∧
    (∀ (x : Number) (n : ℤ), x.IsPlain n → x.token? = (int n).token?) ∧
    (∀ numbers : List Number,
      (∃ text, lineText? numbers = some text) ↔ ∀ x ∈ numbers, ∃ t, x.token? = some t) ∧
    ∀ (numbers : List Number) (text : String), lineText? numbers = some text →
      ∃ ts, Spaces numbers text ts := by
  refine ⟨exists_token?_iff, fun x t finite written => ?_,
    fun _ _ _ finite finite' => value_of_token?_eq finite finite',
    fun _ _ => token?_of_isPlain, exists_lineText?_iff, fun _ _ => spaces_of_lineText?⟩
  rw [((token?_eq_some_iff x t).mp written).2]
  exact isSpelling_spelled finite

theorem token_spells_zeros :
    (float 1e16).IsFinite ∧ (float 1e16).IsSpelling "1e+16".toList ∧
    (float (-0.0)).IsFinite ∧ (float 0.0).IsFinite ∧ (float (-0.0)).token? = some "0" ∧
    (float 0.0).token? = some "0" ∧ (float (-0.0)).value = (float 0.0).value ∧
    (float (-0.0)).IsPlain 0 ∧ (float (-0.0)).token? = (int 0).token? ∧
    ∃ ts, Spaces [float (-0.0), float 1e16] "0 1e+16" ts := by
  have finite : (float 1e16).IsFinite := by
    show Double.isFinite 1e16 = true
    decide +kernel
  have finite' : (float (-0.0)).IsFinite := by
    show Double.isFinite (-0.0) = true
    decide +kernel
  have finite'' : (float 0.0).IsFinite := by
    show Double.isFinite 0.0 = true
    decide +kernel
  have large : (float 1e16).token? = some "1e+16" := by decide +kernel
  have negative : (float (-0.0)).token? = some "0" := by decide +kernel
  have positive : (float 0.0).token? = some "0" := by decide +kernel
  have plain : (float (-0.0)).IsPlain 0 :=
    ⟨Double.toInt?_eq_some_iff.mp (by decide +kernel), fun _ _ => by decide⟩
  have line : lineText? [float (-0.0), float 1e16] = some "0 1e+16" := by decide +kernel
  obtain ⟨_, spelling, equal, integer, _, apart⟩ := token_spells
  exact ⟨finite, spelling _ _ finite large, finite', finite'', negative, positive,
    equal _ _ _ finite' finite'' negative positive, plain, integer _ _ plain, apart _ _ line⟩

/-- An integer with 4301 digits is finite and has no token, and no line with it can be written. -/
theorem token?_largeInteger :
    (int (10 ^ 4300)).IsFinite ∧ (int (10 ^ 4300)).token? = none ∧
      (int (10 ^ 5000)).token? = none ∧ lineText? [int 1, int (10 ^ 4300)] = none := by
  have beyond {n : Nat} (large : 4300 ≤ n) : (int (10 ^ n)).token? = none := by
    refine Option.eq_none_iff_forall_ne_some.mpr fun t written => ?_
    have writable := ((token?_eq_some_iff _ t).mp written).1
    exact not_lt.mpr large ((isWritable_pow_iff n).mp writable)
  refine ⟨trivial, beyond le_rfl, beyond (by decide), ?_⟩
  refine Option.eq_none_iff_forall_ne_some.mpr fun text written => ?_
  obtain ⟨t, first⟩ := (exists_lineText?_iff _).mp ⟨text, written⟩ (int (10 ^ 4300))
    (List.mem_cons_of_mem _ List.mem_cons_self)
  cases (beyond le_rfl).symm.trans first

end Number

end RayScene
