import RayScene.Proofs.Number.Product
import RayScene.Proofs.Number.Reading

/-!
# Sums of doubles

A sum is infinite only if it is nearer to 2^1024 than to the greatest double. Nothing with a field
of at most 1992 can bring a finite double that far (`isFinite_add`).
-/

namespace RayScene.Double
open Float.Model (Format UnpackedFloat)
open Float.Model.UnpackedFloat

/-- Rounding is to the nearest: the double of what is rounded exceeds what had one bit more by one
at most. -/
theorem roundedMantissa_shiftRight (em : ExtendedMantissa) (n : Nat) :
    2 * (em >>> (n + 1)).roundedMantissa ≤ em.mantissa / 2 ^ n + 1 := by
  have last : em >>> (n + 1) = (em >>> n).shiftRightOne := rfl
  rw [last, ← mantissa_shiftRight]
  generalize em >>> n = kept
  rcases Nat.mod_two_eq_zero_or_one kept.mantissa with even | odd
  · have down : kept.shiftRightOne.roundedMantissa = kept.mantissa / 2 := by
      rw [ExtendedMantissa.shiftRightOne, even]
      cases kept.roundBit || kept.stickyBit <;> rfl
    omega
  · have up := roundedMantissa_le kept.shiftRightOne
    have half : kept.shiftRightOne.mantissa = kept.mantissa / 2 := rfl
    omega

/-- A magnitude that is nearer to the greatest double than to 2^1024 is rounded to a double. -/
theorem roundWithAccuracy_finite (s : Sign) {m n : Nat} (size : m < (2 ^ 54 - 1) * 2 ^ n) :
    ExponentAtMost 971 (roundWithAccuracy Format.binary64 s m (970 - n) .exact) := by
  by_cases short : m < 2 ^ (53 + n)
  · refine (roundWithAccuracy_exponent s (970 - n) short).mono ?_
    omega
  -- The mantissa has one bit more than 53 + n, and rounding does not carry.
  have width : m.log2 = 53 + n := by
    have nonzero : m ≠ 0 := by
      rintro rfl
      exact short (Nat.two_pow_pos _)
    refine (Nat.log2_eq_iff nonzero).mpr ⟨not_lt.mp short, size.trans_le ?_⟩
    rw [show 53 + n + 1 = 54 + n by omega, pow_add]
    exact Nat.mul_le_mul_right _ (by decide)
  have amount :
      (max (((53 + n : Nat) : ℤ) + 1 + (970 - n) - 53) (-1074) - (970 - n)).toNat = n + 1 := by
    omega
  apply roundWithAccuracy_exponentAtMost
  rw [shiftToTargetExponent_eq, width, amount]
  dsimp only
  set kept := ExtendedMantissa.ofMantissaAndAccuracy m .exact >>> (n + 1) with shifted
  have narrow : kept.roundedMantissa < 2 ^ 53 := by
    have nearest := roundedMantissa_shiftRight (.ofMantissaAndAccuracy m .exact) n
    rw [mantissa_ofMantissaAndAccuracy, ← shifted] at nearest
    have quotient : m / 2 ^ n < 2 ^ 54 - 1 := Nat.div_lt_of_lt_mul (Nat.mul_comm _ _ ▸ size)
    omega
  have notCarried := log2_lt_of_lt (by decide) narrow
  rw [shiftToTargetExponent_eq]
  dsimp only
  omega

theorem round_finite (s : Sign) {m n : Nat} (size : m < (2 ^ 54 - 1) * 2 ^ n) :
    ExponentAtMost 971 (UnpackedFloat.round Format.binary64 s m (970 - n)) := by
  unfold UnpackedFloat.round decreaseExponent
  dsimp only
  set k := ((970 : ℤ) - n - Format.binary64.targetExponent
    (Float.Model.totalExponent m (970 - n))).toNat
  have shifted : (970 : ℤ) - n - k = 970 - (n + k : Nat) := by omega
  rw [shifted, Nat.shiftLeft_eq]
  apply roundWithAccuracy_finite
  rw [pow_add, ← Nat.mul_assoc]
  exact Nat.mul_lt_mul_of_pos_right size (Nat.two_pow_pos k)

theorem normalize_finite (zero : Sign) {m : ℤ} {n : Nat} (size : m.natAbs < (2 ^ 54 - 1) * 2 ^ n) :
    ExponentAtMost 971 (UnpackedFloat.normalize Format.binary64 m (970 - n) zero) := by
  unfold UnpackedFloat.normalize
  split
  · exact round_finite _ (by omega)
  · trivial
  · exact round_finite _ (by omega)

/-! ### Sums -/

theorem natAbs_add_apply (s t : Sign) (m k : Nat) :
    (s.apply (m : ℤ) + t.apply (k : ℤ)).natAbs ≤ m + k := by
  cases s <;> cases t <;> simp only [Sign.apply] <;> omega

theorem shiftLeft_le {m k n : Nat} (size : m < 2 ^ 53) (le : k ≤ n) :
    m <<< k ≤ (2 ^ 53 - 1) * 2 ^ n := by
  rw [Nat.shiftLeft_eq]
  exact Nat.mul_le_mul (by omega) (Nat.pow_le_pow_right Nat.two_pos le)

theorem add_finite (s t : Sign) {m k : Nat} {e f : ℤ} (positive : 0 < m) (positive' : 0 < k)
    (size : m < 2 ^ 53) (size' : k < 2 ^ 53) (top : e ≤ 971) (low : f ≤ 917) :
    ExponentAtMost 971 (UnpackedFloat.add Format.binary64 (.finite s m e positive)
      (.finite t k f positive')) := by
  -- The second summand is less than half of the last place of the greatest double.
  obtain ⟨n, least⟩ : ∃ n : Nat, min e f = 970 - (n + 53 : Nat) :=
    ⟨(917 - min e f).toNat, by omega⟩
  unfold UnpackedFloat.add decreaseExponent
  dsimp only
  have first := shiftLeft_le (k := (e - min e f).toNat) (n := n + 54) size (by omega)
  have second := shiftLeft_le (k := (f - min e f).toNat) (n := n) size' (by omega)
  have total := natAbs_add_apply s t (m <<< (e - min e f).toNat) (k <<< (f - min e f).toNat)
  rw [least] at *
  apply normalize_finite
  have unit := Nat.two_pow_pos n
  rw [pow_add] at first ⊢
  omega

theorem isFinite_add {x y : Float} (finite : isFinite x = true) (small : field y ≤ 1992) :
    isFinite (x + y) = true := by
  have sum : x + y =
      .ofModel (.pack (UnpackedFloat.add Format.binary64 x.toModel.unpack y.toModel.unpack)) := rfl
  have finite' : isFinite y = true := isFinite_iff_field.mpr (by omega)
  have top := isFinite_iff_field.mp finite
  suffices bound : ExponentAtMost 971
      (UnpackedFloat.add Format.binary64 x.toModel.unpack y.toModel.unpack) by
    rw [sum]
    exact isFinite_iff_field.mpr (field_pack bound le_rfl)
  rcases unpack_of_isFinite finite with ⟨s, zero⟩ | ⟨s, m, e, _, unpacked, size, high⟩
  · rcases unpack_of_isFinite finite' with ⟨t, zero'⟩ | ⟨t, k, f, _, unpacked', _, low⟩
    · rw [zero, zero']
      cases s <;> cases t <;> trivial
    · rw [zero, unpacked']
      show f ≤ 971
      omega
  · rcases unpack_of_isFinite finite' with ⟨t, zero'⟩ | ⟨t, k, f, _, unpacked', size', low⟩
    · rw [unpacked, zero']
      show e ≤ 971
      omega
    · rw [unpacked, unpacked']
      exact add_finite s t _ _ size size' (by omega) (by omega)

theorem field_neg {x : Float} (finite : isFinite x = true) : field (-x) ≤ max 1 (field x) := by
  have negated : -x = .ofModel (.pack x.toModel.unpack.neg) := rfl
  have top := isFinite_iff_field.mp finite
  have bound : ExponentAtMost ((max 1 (field x) : Nat) - 1075) x.toModel.unpack.neg := by
    rcases unpack_of_isFinite finite with ⟨s, zero⟩ | ⟨s, m, e, _, unpacked, _, low⟩
    · rw [zero]
      trivial
    · rw [unpacked]
      show e ≤ _
      omega
  rw [negated]
  refine (field_pack bound (by omega)).trans ?_
  omega

theorem two_le_ratio {bits : Nat} (high : 1024 ≤ bits / fullMantissa) : 2 ≤ ratio bits := by
  have normal : fullMantissa ≤ bits := by
    simp only [fullMantissa] at high ⊢
    omega
  have full : (2 : ℚ) ^ (52 : ℤ) ≤ (fullMantissa + bits % fullMantissa : Nat) := by
    rw [← Nat.cast_ofNat, ← Nat.cast_ofNat (n := 52), zpow_natCast, ← Nat.cast_pow, Nat.cast_le]
    exact Nat.le_add_right _ _
  rw [ratio, parts_normal normal]
  calc (2 : ℚ) = 2 ^ (52 : ℤ) * 2 ^ (-51 : ℤ) := by norm_num
    _ ≤ _ := by
      refine mul_le_mul full (zpow_le_zpow_right₀ (by norm_num) ?_) (by positivity) (by positivity)
      dsimp only
      omega

/-- A double between -1 and 1 has a field of at most 1023. -/
theorem field_of_value {x : Float} {q : ℚ} (value : Double.value x = .finite q)
    (low : -1 ≤ q) (high : q ≤ 1) : isFinite x = true ∧ field x ≤ 1023 := by
  unfold Double.value at value
  split at value
  case isTrue finite =>
    refine ⟨finite, not_lt.mp fun above => ?_⟩
    have two : 2 ≤ ratio (magnitude x) := two_le_ratio above
    cases value
    cases sign : isNegative x with
    | true =>
      rw [sign, if_pos rfl] at low
      linarith
    | false =>
      rw [sign, if_neg Bool.false_ne_true] at high
      linarith
  case isFalse =>
    split at value <;> cases value

end RayScene.Double
