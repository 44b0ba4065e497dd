import RayScene.Number.Basic
import RayScene.Proofs.Number.Shortest
import RayScene.Text.Integer

/-!
# Reading numbers

The way back from written numbers. A text of digits, a fraction and an exponent is a decimal
(`Decimal.ofChars?`), and a token stands for a value (`Value.ofChars?`). In every style a written
finite double is read as that double (`Decimal.ofChars?_write`).
-/

namespace RayScene

/-- What a number stands for. Both zeros stand for 0. -/
inductive Value where
  | finite (q : ℚ)
  | infinite (negative : Bool)
  | nan
deriving DecidableEq

def Double.value (x : Float) : Value :=
  if isFinite x then
    .finite (if isNegative x then -ratio (magnitude x) else ratio (magnitude x))
  else if isInfinite x then .infinite (isNegative x)
  else .nan

def Number.value : Number → Value
  | int n => .finite n
  | bool b => .finite (if b then 1 else 0)
  | float x => Double.value x

namespace Decimal

def integer? (cs : List Char) : Option ℤ :=
  let (negative, digits) := Text.splitSign cs
  if digits ≠ [] ∧ digits.all Char.isDigit then
    some (if negative then -(Nat.ofDigitChars 10 digits 0 : ℤ) else Nat.ofDigitChars 10 digits 0)
  else none

def fraction : List Char → List Char × List Char
  | '.' :: cs => (cs.takeWhile Char.isDigit, cs.dropWhile Char.isDigit)
  | cs => ([], cs)

def exponent? : List Char → Option ℤ
  | [] => some 0
  | 'e' :: cs => integer? cs
  | _ => none

def unsigned? (cs : List Char) : Option (Nat × ℤ) :=
  let whole := cs.takeWhile Char.isDigit
  let (places, rest) := fraction (cs.dropWhile Char.isDigit)
  if whole = [] then none
  else (exponent? rest).map fun e => (Nat.ofDigitChars 10 (whole ++ places) 0, e - places.length)

def ofChars? (cs : List Char) : Option Decimal :=
  let (negative, body) := Text.splitSign cs
  (unsigned? body).map fun (digits, exponent) => ⟨negative, digits, exponent⟩

def AllDigits (cs : List Char) : Prop := ∀ c ∈ cs, c.isDigit = true

theorem allDigits_append {cs ds : List Char} (hc : AllDigits cs) (hd : AllDigits ds) :
    AllDigits (cs ++ ds) := by
  intro c member
  rcases List.mem_append.mp member with h | h
  · exact hc c h
  · exact hd c h

theorem allDigits_toDigits (n : Nat) : AllDigits (Nat.toDigits 10 n) :=
  fun _ member => Nat.isDigit_of_mem_toDigits (by decide) (by decide) member

theorem allDigits_zeros (n : Nat) : AllDigits (FloatStyle.zeros n) := by
  intro c member
  rw [List.eq_of_mem_replicate member]
  rfl

theorem allDigits_zero : AllDigits ['0'] := by
  intro c member
  rw [List.mem_singleton.mp member]
  rfl

/-- Digits are read up to the first other character. -/
theorem takeWhile_digits {ds rest : List Char} (hd : AllDigits ds)
    (stop : rest.takeWhile Char.isDigit = []) : (ds ++ rest).takeWhile Char.isDigit = ds := by
  rw [List.takeWhile_append_of_pos hd, stop, List.append_nil]

theorem dropWhile_digits {ds rest : List Char} (hd : AllDigits ds)
    (stop : rest.takeWhile Char.isDigit = []) : (ds ++ rest).dropWhile Char.isDigit = rest := by
  rw [List.dropWhile_append_of_pos hd]
  have split := List.takeWhile_append_dropWhile (p := Char.isDigit) (l := rest)
  rwa [stop, List.nil_append] at split

theorem splitSign_digits {ds : List Char} (hd : AllDigits ds) (rest : List Char) (hne : ds ≠ []) :
    Text.splitSign (ds ++ rest) = (false, ds ++ rest) := by
  cases ds with
  | nil => exact absurd rfl hne
  | cons c ds =>
    have digit := hd c List.mem_cons_self
    unfold Text.splitSign
    split
    · rename_i same
      cases (List.cons.inj same).1
      exact absurd digit (by decide)
    · rename_i same
      cases (List.cons.inj same).1
      exact absurd digit (by decide)
    · rfl

theorem integer?_digits {ds : List Char} (hd : AllDigits ds) (hne : ds ≠ []) :
    integer? ds = some (Nat.ofDigitChars 10 ds 0 : ℤ) := by
  have sign := splitSign_digits hd [] hne
  rw [List.append_nil] at sign
  rw [integer?, sign]
  exact if_pos ⟨hne, List.all_eq_true.mpr hd⟩

theorem integer?_signed {ds : List Char} (hd : AllDigits ds) (hne : ds ≠ []) (negative : Bool) :
    integer? ((if negative then '-' else '+') :: ds) =
      some (if negative then -(Nat.ofDigitChars 10 ds 0 : ℤ) else Nat.ofDigitChars 10 ds 0) := by
  have plain : ds ≠ [] ∧ ds.all Char.isDigit = true := ⟨hne, List.all_eq_true.mpr hd⟩
  cases negative
  · exact if_pos plain
  · exact if_pos plain

theorem toList_toString (n : ℤ) :
    (toString n).toList = (if n < 0 then ['-'] else []) ++ Nat.toDigits 10 n.natAbs := by
  rw [Int.toString_eq_repr, Int.repr_eq_if]
  split
  · rename_i nonneg
    rw [Nat.toList_repr, if_neg (not_lt.mpr nonneg), List.nil_append,
      show n.toNat = n.natAbs by omega]
  · rename_i negative
    rw [String.toList_append, Nat.toList_repr, if_pos (lt_of_not_ge negative),
      show (-n).toNat = n.natAbs by omega]
    rfl

theorem integer?_toString (n : ℤ) : integer? (toString n).toList = some n := by
  rw [toList_toString]
  split
  · rename_i negative
    refine (integer?_signed (allDigits_toDigits n.natAbs) Nat.toDigits_ne_nil true).trans ?_
    rw [Nat.ofDigitChars_ten_toDigits, if_pos rfl, Int.ofNat_natAbs_of_nonpos negative.le, neg_neg]
  · rename_i nonneg
    rw [List.nil_append, integer?_digits (allDigits_toDigits _) Nat.toDigits_ne_nil,
      Nat.ofDigitChars_ten_toDigits, Int.natAbs_of_nonneg (not_lt.mp nonneg)]

theorem unsigned?_point (whole places rest : List Char) {e : ℤ} (hw : AllDigits whole)
    (hp : AllDigits places) (hne : whole ≠ []) (stop : rest.takeWhile Char.isDigit = [])
    (he : exponent? rest = some e) :
    unsigned? (whole ++ '.' :: (places ++ rest)) =
      some (Nat.ofDigitChars 10 (whole ++ places) 0, e - places.length) := by
  have pointStop : ('.' :: (places ++ rest)).takeWhile Char.isDigit = [] := rfl
  unfold unsigned?
  rw [takeWhile_digits hw pointStop, dropWhile_digits hw pointStop]
  simp only [fraction, takeWhile_digits hp stop, dropWhile_digits hp stop, if_neg hne, he,
    Option.map_some]

theorem unsigned?_plain (whole rest : List Char) {e : ℤ} (hw : AllDigits whole) (hne : whole ≠ [])
    (noPoint : fraction rest = ([], rest)) (stop : rest.takeWhile Char.isDigit = [])
    (he : exponent? rest = some e) :
    unsigned? (whole ++ rest) = some (Nat.ofDigitChars 10 whole 0, e) := by
  unfold unsigned?
  rw [takeWhile_digits hw stop, dropWhile_digits hw stop, noPoint]
  simp [hne, he]

/-! ### Written floats -/

def Reads (cs : List Char) (n : Nat) (place : ℤ) : Prop :=
  ∃ digits exponent, unsigned? cs = some (digits, exponent) ∧
    (digits : ℚ) * 10 ^ exponent = n * 10 ^ place

theorem reads_same {cs : List Char} {n : Nat} {place : ℤ} (h : unsigned? cs = some (n, place)) :
    Reads cs n place := ⟨n, place, h, rfl⟩

section Positional

variable {ds : List Char}

theorem unsigned?_leadingZeros (digits : AllDigits ds) (zeros : Nat) :
    unsigned? ('0' :: '.' :: FloatStyle.zeros zeros ++ ds) =
      some (Nat.ofDigitChars 10 ds 0, -((zeros + ds.length : Nat) : ℤ)) := by
  have read := unsigned?_point ['0'] _ [] allDigits_zero
    (allDigits_append (allDigits_zeros zeros) digits) (by simp) rfl rfl
  simp only [List.append_nil] at read
  refine read.trans ?_
  rw [List.singleton_append, Nat.ofDigitChars_cons, Nat.ofDigitChars_append]
  simp only [FloatStyle.zeros, Nat.ofDigitChars_replicate_zero, List.length_append,
    List.length_replicate]
  simp only [show 10 * 0 + ('0'.toNat - '0'.toNat) = 0 from rfl, Nat.mul_zero, zero_sub]

/-- Zeros between the digits and the point make the exponent up. -/
theorem reads_trailingZeros (digits : AllDigits ds) (positive : 0 < ds.length) (zeros : Nat) :
    Reads (ds ++ FloatStyle.zeros zeros ++ ['.', '0']) (Nat.ofDigitChars 10 ds 0) zeros := by
  have read := unsigned?_point _ ['0'] [] (allDigits_append digits (allDigits_zeros zeros))
    allDigits_zero
    (by
      intro empty
      rw [(List.append_eq_nil_iff.mp empty).1] at positive
      exact absurd positive (by decide))
    rfl rfl
  refine ⟨_, _, read, ?_⟩
  rw [Nat.ofDigitChars_append, Nat.ofDigitChars_append]
  simp only [FloatStyle.zeros, Nat.ofDigitChars_replicate_zero, Nat.ofDigitChars_cons,
    Nat.ofDigitChars_nil, List.length_singleton]
  rw [show ('0'.toNat - '0'.toNat) = 0 from rfl, Nat.add_zero]
  push_cast
  rw [← zpow_natCast]
  norm_num
  ring

theorem unsigned?_pointWithin (digits : AllDigits ds) {whole : Nat} (positive : 0 < whole)
    (within : whole < ds.length) :
    unsigned? (ds.take whole ++ '.' :: ds.drop whole) =
      some (Nat.ofDigitChars 10 ds 0, -((ds.length - whole : Nat) : ℤ)) := by
  have read := unsigned?_point (ds.take whole) (ds.drop whole) []
    (fun c h => digits c (List.mem_of_mem_take h)) (fun c h => digits c (List.mem_of_mem_drop h))
    (by
      intro empty
      have length := congrArg List.length empty
      simp only [List.length_take, List.length_nil] at length
      omega)
    rfl rfl
  rw [List.append_nil, List.take_append_drop, List.length_drop, zero_sub] at read
  exact read

end Positional

theorem positional_reads (n : Nat) (place : ℤ) :
    Reads (FloatStyle.positional (Nat.toDigits 10 n) ((Nat.toDigits 10 n).length + place)) n
      place := by
  have digits := allDigits_toDigits n
  have positive : 0 < (Nat.toDigits 10 n).length := Nat.length_toDigits_pos
  have back : Nat.ofDigitChars 10 (Nat.toDigits 10 n) 0 = n := Nat.ofDigitChars_ten_toDigits
  generalize Nat.toDigits 10 n = ds at digits positive back ⊢
  subst back
  unfold FloatStyle.positional
  split
  · rename_i outside
    refine reads_same ((unsigned?_leadingZeros digits _).trans ?_)
    congr 2
    omega
  split
  · rename_i inside all
    have zeros : ((((ds.length : ℤ) + place).toNat - ds.length : Nat) : ℤ) = place := by omega
    have read := reads_trailingZeros digits positive (((ds.length : ℤ) + place).toNat - ds.length)
    rwa [zeros] at read
  · rename_i inside within
    refine reads_same ((unsigned?_pointWithin digits ?_ ?_).trans ?_)
    · omega
    · omega
    · congr 2
      omega

theorem exponent?_text (style : FloatStyle) (e : ℤ) :
    exponent? ('e' :: style.exponentText e) = some e := by
  have read := integer?_signed
    (allDigits_append (allDigits_zeros (style.exponentWidth - (Nat.toDigits 10 e.natAbs).length))
      (allDigits_toDigits e.natAbs))
    (by
      intro h
      exact Nat.toDigits_ne_nil (List.append_eq_nil_iff.mp h).2) (decide (e < 0))
  simp only [FloatStyle.zeros, Nat.ofDigitChars_append, Nat.ofDigitChars_replicate_zero,
    Nat.mul_zero, Nat.ofDigitChars_ten_toDigits, decide_eq_true_eq] at read
  refine read.trans ?_
  congr 1
  split <;> omega

theorem scientific_reads (style : FloatStyle) (n : Nat) (place : ℤ) :
    Reads (style.scientific (Nat.toDigits 10 n) ((Nat.toDigits 10 n).length + place - 1)) n
      place := by
  have digits := allDigits_toDigits n
  have back : Nat.ofDigitChars 10 (Nat.toDigits 10 n) 0 = n := Nat.ofDigitChars_ten_toDigits
  have nonempty : Nat.toDigits 10 n ≠ [] := Nat.toDigits_ne_nil
  generalize Nat.toDigits 10 n = ds at digits back nonempty ⊢
  obtain ⟨d, ds, rfl⟩ := List.exists_cons_of_ne_nil nonempty
  have first : AllDigits [d] := fun c h => digits c (by simp at h; simp [h])
  have others : AllDigits ds := fun c h => digits c (List.mem_cons_of_mem _ h)
  unfold FloatStyle.scientific
  refine reads_same ?_
  cases ds with
  | nil =>
    refine (unsigned?_plain [d] _ first (by simp) rfl rfl (exponent?_text style _)).trans ?_
    rw [back]
    simp
  | cons d' ds =>
    have read := unsigned?_point [d] (d' :: ds) _ first others (by simp) rfl
      (exponent?_text style ((d :: d' :: ds).length + place - 1))
    simp only [List.take_succ_cons, List.take_zero, List.drop_succ_cons, List.drop_zero,
      List.append_assoc] at read ⊢
    refine read.trans ?_
    rw [List.singleton_append, back]
    simp only [List.length_cons]
    congr 2
    push_cast
    ring

theorem unsigned_reads (style : FloatStyle) (n : Nat) (place : ℤ) :
    Reads (style.unsigned n place) n place := by
  unfold FloatStyle.unsigned
  dsimp only
  split
  · rename_i zero
    rw [zero]
    exact ⟨0, -1, rfl, by simp⟩
  split
  · rw [sub_add_cancel]
    exact positional_reads n place
  · exact scientific_reads style n place

theorem splitSign_of_unsigned {cs : List Char} {d : Nat × ℤ} (h : unsigned? cs = some d) :
    Text.splitSign cs = (false, cs) := by
  have nonempty : cs.takeWhile Char.isDigit ≠ [] := by
    intro empty
    simp [unsigned?, empty] at h
  have digits : AllDigits (cs.takeWhile Char.isDigit) := List.all_eq_true.mp List.all_takeWhile
  have sign := splitSign_digits digits (cs.dropWhile Char.isDigit) nonempty
  rwa [List.takeWhile_append_dropWhile] at sign

theorem ofChars?_of_unsigned {cs : List Char} {n : Nat} {e : ℤ} (h : unsigned? cs = some (n, e))
    (negative : Bool) :
    ofChars? ((if negative then ['-'] else []) ++ cs) = some ⟨negative, n, e⟩ := by
  cases negative
  · simp only [Bool.false_eq_true, if_false, List.nil_append, ofChars?, splitSign_of_unsigned h, h]
    rfl
  · simp only [if_true, List.singleton_append, ofChars?, Text.splitSign, h]
    rfl

/-- In every style a written finite double is read as that double, sign included. -/
theorem ofChars?_write (style : FloatStyle) {x : Float} (finite : Double.isFinite x = true) :
    ∃ d, ofChars? (style.write x).toList = some d ∧ d.toFloat = x := by
  obtain ⟨n, e, read, same⟩ := unsigned_reads style (shortest x).digits (shortest x).exponent
  refine ⟨⟨Double.isNegative x, n, e⟩, ?_, ?_⟩
  · rw [FloatStyle.write, if_pos finite, String.toList_ofList]
    exact ofChars?_of_unsigned read (Double.isNegative x)
  · rw [toFloat, nearest_congr same, shortest_reads finite, Double.ofMagnitude_magnitude]

theorem ofChars?_toString (n : ℤ) :
    ofChars? (toString n).toList = some ⟨decide (n < 0), n.natAbs, 0⟩ := by
  have read := ofChars?_of_unsigned (unsigned?_plain (Nat.toDigits 10 n.natAbs) []
    (allDigits_toDigits _) Nat.toDigits_ne_nil rfl rfl rfl) (decide (n < 0))
  rw [List.append_nil, Nat.ofDigitChars_ten_toDigits] at read
  rw [toList_toString, ← read]
  simp only [decide_eq_true_eq]

end Decimal

/-! ### Tokens -/

def Value.ofChars? (cs : List Char) : Option Value :=
  match Decimal.ofChars? cs with
  | some d => some (Double.value d.toFloat)
  | none =>
    if cs = ['n', 'a', 'n'] then some .nan
    else if cs = ['i', 'n', 'f'] then some (.infinite false)
    else if cs = ['-', 'i', 'n', 'f'] then some (.infinite true)
    else none

namespace Double

theorem value_ofMagnitude (negative : Bool) {bits : Nat} (hb : bits < infinity) :
    value (ofMagnitude negative bits) = .finite (if negative then -ratio bits else ratio bits) := by
  rw [value, isFinite, magnitude_ofMagnitude negative hb.le, isNegative_ofMagnitude negative hb.le,
    decide_eq_true hb, if_pos rfl]

/-- A double that equals an integer stands for that integer. -/
theorem value_of_toInt? {x : Float} {n : ℤ} (h : toInt? x = some n) :
    isFinite x = true ∧ (n.natAbs : ℚ) = ratio (magnitude x) ∧ value x = .finite n := by
  unfold toInt? at h
  split at h
  · rename_i finite
    dsimp only at h
    split at h
    · rename_i divides
      obtain ⟨positive, same⟩ := quotient_ratio (magnitude x)
      have whole : (quotient (magnitude x)).1 / (quotient (magnitude x)).2 *
          (quotient (magnitude x)).2 = (quotient (magnitude x)).1 :=
        Nat.div_mul_cancel (Nat.dvd_of_mod_eq_zero divides)
      rw [← whole, Nat.cast_mul, mul_div_cancel_right₀ _ (by exact_mod_cast positive.ne')] at same
      generalize (quotient (magnitude x)).1 / (quotient (magnitude x)).2 = k at h same
      cases h
      refine ⟨finite, ?_, ?_⟩
      · rw [← same]
        congr 1
        split <;> omega
      · rw [value, if_pos finite, ← same]
        split <;> simp
    · cases h
  · cases h

theorem ratio_of_value {x : Float} {n : ℤ} (h : value x = .finite n) :
    isFinite x = true ∧ ratio (magnitude x) = n.natAbs := by
  unfold value at h
  split at h
  · rename_i finite
    have signed : (if isNegative x then -ratio (magnitude x) else ratio (magnitude x)) = n :=
      Value.finite.inj h
    have nonneg : 0 ≤ ratio (magnitude x) := by
      rw [← (quotient_ratio (magnitude x)).2]
      positivity
    refine ⟨finite, ?_⟩
    rw [Nat.cast_natAbs, Int.cast_abs, ← signed]
    split
    · rw [abs_neg, abs_of_nonneg nonneg]
    · rw [abs_of_nonneg nonneg]
  · split at h <;> cases h

theorem toInt?_eq_some_iff {x : Float} {n : ℤ} : toInt? x = some n ↔ value x = .finite n := by
  refine ⟨fun h => (value_of_toInt? h).2.2, fun h => ?_⟩
  obtain ⟨finite, size⟩ := ratio_of_value h
  obtain ⟨positive, same⟩ := quotient_ratio (magnitude x)
  rw [size, div_eq_iff (by exact_mod_cast positive.ne')] at same
  have whole : (quotient (magnitude x)).1 = n.natAbs * (quotient (magnitude x)).2 := by
    exact_mod_cast same
  have integral : ∃ m, toInt? x = some m := by
    unfold toInt?
    rw [if_pos finite]
    dsimp only
    rw [whole, Nat.mul_mod_left, if_pos rfl]
    exact ⟨_, rfl⟩
  obtain ⟨m, integral⟩ := integral
  have equal := Value.finite.inj ((value_of_toInt? integral).2.2.symm.trans h)
  rw [integral, Int.cast_inj.mp equal]

/-- Integers of at most 53 bits are doubles. -/
theorem exists_ratio_eq {n : Nat} (h : n < 2 ^ 53) : ∃ bits, bits < infinity ∧ ratio bits = n := by
  rcases Nat.eq_zero_or_pos n with rfl | positive
  · exact ⟨0, by decide, by simp [ratio_eq_zero]⟩
  have low := Nat.log2_self_le positive.ne'
  have high : n < 2 ^ (n.log2 + 1) := Nat.lt_log2_self
  have log : n.log2 ≤ 52 := by
    have := (Nat.log2_lt positive.ne').mpr h
    omega
  -- The mantissa is the integer, shifted to 53 bits.
  have mantissaLow : fullMantissa ≤ n * 2 ^ (52 - n.log2) := by
    calc fullMantissa = 2 ^ n.log2 * 2 ^ (52 - n.log2) := by
          rw [← Nat.pow_add, Nat.add_sub_cancel' log]; rfl
      _ ≤ n * 2 ^ (52 - n.log2) := Nat.mul_le_mul_right _ low
  have mantissaHigh : n * 2 ^ (52 - n.log2) < 2 * fullMantissa := by
    calc n * 2 ^ (52 - n.log2) < 2 ^ (n.log2 + 1) * 2 ^ (52 - n.log2) :=
          Nat.mul_lt_mul_of_pos_right high (Nat.two_pow_pos _)
      _ = 2 * fullMantissa := by
          rw [← Nat.pow_add, show n.log2 + 1 + (52 - n.log2) = 53 by omega]; rfl
  refine ⟨(n.log2 + 1022) * fullMantissa + n * 2 ^ (52 - n.log2), ?_, ?_⟩
  · simp only [fullMantissa, infinity] at mantissaHigh ⊢
    omega
  · rw [ratio, parts_normal (by simp only [fullMantissa] at mantissaLow ⊢; omega)]
    have remainder : ((n.log2 + 1022) * fullMantissa + n * 2 ^ (52 - n.log2)) % fullMantissa =
        n * 2 ^ (52 - n.log2) - fullMantissa := by
      simp only [fullMantissa] at mantissaLow mantissaHigh ⊢
      omega
    have quotient : ((n.log2 + 1022) * fullMantissa + n * 2 ^ (52 - n.log2)) / fullMantissa =
        n.log2 + 1023 := by
      simp only [fullMantissa] at mantissaLow mantissaHigh ⊢
      omega
    dsimp only
    rw [remainder, quotient, Nat.add_sub_cancel' mantissaLow,
      show ((n.log2 + 1023 : Nat) : ℤ) - 1075 = -((52 - n.log2 : Nat) : ℤ) by omega]
    push_cast
    rw [mul_assoc, zpow_neg, zpow_natCast, mul_inv_cancel₀ (by positivity), mul_one]

end Double

namespace Value

theorem ofChars?_toString {n : ℤ} {bits : Nat} (hb : bits < Double.infinity)
    (h : (n.natAbs : ℚ) = Double.ratio bits) :
    ofChars? (toString n).toList = some (.finite n) := by
  have reads : Decimal.nearest n.natAbs 0 = bits :=
    Decimal.nearest_ratio hb (by rw [zpow_zero, mul_one, h])
  rw [ofChars?, Decimal.ofChars?_toString]
  simp only [Decimal.toFloat, reads, Double.value_ofMagnitude _ hb, ← h]
  congr 2
  by_cases negative : n < 0
  · rw [decide_eq_true negative, if_pos rfl, ← Int.cast_natCast,
      Int.ofNat_natAbs_of_nonpos negative.le]
    simp
  · rw [decide_eq_false negative, if_neg (by decide), ← Int.cast_natCast,
      Int.natAbs_of_nonneg (not_lt.mp negative)]

theorem ofChars?_integer {n : ℤ} (h : n.natAbs < 2 ^ 53) :
    ofChars? (toString n).toList = some (.finite n) := by
  obtain ⟨bits, hb, same⟩ := Double.exists_ratio_eq h
  exact ofChars?_toString hb same.symm

theorem ofChars?_write (style : FloatStyle) (x : Float) :
    ofChars? (style.write x).toList = some (Double.value x) := by
  by_cases finite : Double.isFinite x = true
  · obtain ⟨d, read, same⟩ := Decimal.ofChars?_write style finite
    rw [ofChars?, read]
    dsimp only
    rw [same]
  · rw [FloatStyle.write, if_neg finite, Double.value, if_neg finite]
    split
    · cases Double.isNegative x <;> rfl
    · rfl

/-- The token of a double stands for the double. -/
theorem ofChars?_floatToken (x : Float) :
    ofChars? (Number.floatToken x).toList = some (Double.value x) := by
  unfold Number.floatToken
  split
  · rename_i n integral
    obtain ⟨finite, same, value⟩ := Double.value_of_toInt? integral
    split
    · rw [value]
      exact ofChars?_toString (of_decide_eq_true finite) same
    · exact ofChars?_write _ x
  · exact ofChars?_write _ x

end Value

end RayScene
