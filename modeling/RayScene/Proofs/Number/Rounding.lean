import Mathlib.Algebra.Order.Field.Power
import Mathlib.Data.Nat.Log
import Mathlib.Tactic.FieldSimp
import Mathlib.Tactic.Linarith
import Mathlib.Tactic.NormNum
import Mathlib.Tactic.Positivity
import Mathlib.Tactic.Ring
import RayScene.Number.Double

/-!
# Rounding to doubles

`Double.nearest` looks at a quotient and not at how the quotient is written (`nearest_congr`). It
gives back every finite pattern from its value (`nearest_ratio`), infinity from 2^1024 on and zero
below 2^-1075.
-/

namespace RayScene.Double

def ratio (bits : Nat) : ℚ := (parts bits).1 * (2 : ℚ) ^ (parts bits).2

/-- `2 ^ b` is the greatest power of two that is at most `x`. -/
def IsOrder (x : ℚ) (b : ℤ) : Prop := (2 : ℚ) ^ b ≤ x ∧ x < (2 : ℚ) ^ (b + 1)

theorem isOrder_unique {x : ℚ} {a b : ℤ} (ha : IsOrder x a) (hb : IsOrder x b) : a = b := by
  have hab : a < b + 1 :=
    (zpow_lt_zpow_iff_right₀ (by norm_num : (1 : ℚ) < 2)).mp (ha.1.trans_lt hb.2)
  have hba : b < a + 1 :=
    (zpow_lt_zpow_iff_right₀ (by norm_num : (1 : ℚ) < 2)).mp (hb.1.trans_lt ha.2)
  omega

theorem isOrder_le {x : ℚ} {a b : ℤ} (ha : IsOrder x a) (hb : (2 : ℚ) ^ b ≤ x) : b ≤ a := by
  have := (zpow_lt_zpow_iff_right₀ (by norm_num : (1 : ℚ) < 2)).mp (hb.trans_lt ha.2)
  omega

theorem isOrder_lt {x : ℚ} {a b : ℤ} (ha : IsOrder x a) (hb : x < (2 : ℚ) ^ b) : a < b :=
  (zpow_lt_zpow_iff_right₀ (by norm_num : (1 : ℚ) < 2)).mp (ha.1.trans_lt hb)

/-- Whether `2 ^ g` is at most `num / den`, decided in `Nat`. -/
def reaches (num den : Nat) (g : ℤ) : Bool :=
  match g with
  | .ofNat k => den * Nat.pow 2 k ≤ num
  | .negSucc k => den ≤ num * Nat.pow 2 (k + 1)

theorem reaches_iff (num den : Nat) (g : ℤ) :
    reaches num den g = true ↔ (2 : ℚ) ^ g * den ≤ num := by
  cases g with
  | ofNat k =>
    simp only [reaches, decide_eq_true_eq, Int.ofNat_eq_natCast, zpow_natCast]
    rw [mul_comm, ← Nat.cast_le (α := ℚ)]
    push_cast [Nat.pow_eq]
    rfl
  | negSucc k =>
    simp only [reaches, decide_eq_true_eq, zpow_negSucc]
    rw [← Nat.cast_le (α := ℚ), inv_mul_le_iff₀ (by positivity), mul_comm (num : ℕ)]
    push_cast [Nat.pow_eq]
    rfl

theorem binaryOrder_eq (num den : Nat) :
    binaryOrder num den =
      let guess : ℤ := (num.log2 : ℤ) - den.log2
      if reaches num den guess then guess else guess - 1 := rfl

theorem log2_bounds {n : Nat} (hn : 0 < n) :
    (2 : ℚ) ^ (n.log2 : ℤ) ≤ n ∧ (n : ℚ) < (2 : ℚ) ^ ((n.log2 : ℤ) + 1) := by
  have lower : 2 ^ n.log2 ≤ n := Nat.log2_self_le hn.ne'
  have upper : n < 2 ^ (n.log2 + 1) := Nat.lt_log2_self
  constructor
  · exact_mod_cast lower
  · exact_mod_cast upper

theorem binaryOrder_isOrder {num den : Nat} (hn : 0 < num) (hd : 0 < den) :
    IsOrder (num / den) (binaryOrder num den) := by
  obtain ⟨numLow, numHigh⟩ := log2_bounds hn
  obtain ⟨denLow, denHigh⟩ := log2_bounds hd
  have hd' : (0 : ℚ) < den := by exact_mod_cast hd
  have h2 : (2 : ℚ) ≠ 0 := by norm_num
  -- The guess is off by at most one.
  have high : (num : ℚ) < 2 ^ ((num.log2 : ℤ) - den.log2 + 1) * den := by
    calc (num : ℚ) < 2 ^ ((num.log2 : ℤ) + 1) := numHigh
      _ = 2 ^ ((num.log2 : ℤ) - den.log2 + 1) * 2 ^ (den.log2 : ℤ) := by
        rw [← zpow_add₀ h2]; congr 1; ring
      _ ≤ _ := by gcongr
  have low : (2 : ℚ) ^ ((num.log2 : ℤ) - den.log2 - 1) * den ≤ num := by
    calc (2 : ℚ) ^ ((num.log2 : ℤ) - den.log2 - 1) * den
        ≤ 2 ^ ((num.log2 : ℤ) - den.log2 - 1) * 2 ^ ((den.log2 : ℤ) + 1) := by gcongr
      _ = 2 ^ (num.log2 : ℤ) := by rw [← zpow_add₀ h2]; congr 1; ring
      _ ≤ num := numLow
  have reached := reaches_iff num den ((num.log2 : ℤ) - den.log2)
  rw [IsOrder, binaryOrder_eq, le_div_iff₀ hd', div_lt_iff₀ hd']
  dsimp only
  split
  · rename_i h
    exact ⟨reached.mp h, high⟩
  · rename_i h
    rw [sub_add_cancel]
    exact ⟨low, lt_of_not_ge fun le => h (reached.mpr le)⟩

theorem binaryOrder_scale {num den c : Nat} (hn : 0 < num) (hd : 0 < den) (hc : 0 < c) :
    binaryOrder (c * num) (c * den) = binaryOrder num den := by
  have hc' : (c : ℚ) ≠ 0 := by exact_mod_cast hc.ne'
  have scaled := binaryOrder_isOrder (Nat.mul_pos hc hn) (Nat.mul_pos hc hd)
  push_cast at scaled
  rw [mul_div_mul_left _ _ hc'] at scaled
  exact isOrder_unique scaled (binaryOrder_isOrder hn hd)

/-! ### Rounding to natural numbers -/

theorem roundHalfEven_scale {num den c : Nat} (hc : 0 < c) :
    roundHalfEven (c * num) (c * den) = roundHalfEven num den := by
  unfold roundHalfEven
  simp only [Nat.mul_div_mul_left _ _ hc, Nat.mul_mod_mul_left, Nat.mul_left_comm 2 c,
    Nat.mul_lt_mul_left hc]

theorem roundHalfEven_mul {m den : Nat} (hd : 0 < den) : roundHalfEven (m * den) den = m := by
  simp [roundHalfEven, Nat.mul_div_cancel _ hd, hd]

theorem le_roundHalfEven (num den : Nat) : num / den ≤ roundHalfEven num den := by
  unfold roundHalfEven
  dsimp only
  split
  · exact le_rfl
  split
  · exact Nat.le_succ _
  · exact Nat.le_add_right _ _

theorem roundHalfEven_small {num den : Nat} (h : 2 * num < den) : roundHalfEven num den = 0 := by
  have quotient : num / den = 0 := Nat.div_eq_of_lt (by omega)
  have remainder : num % den = num := Nat.mod_eq_of_lt (by omega)
  simp [roundHalfEven, quotient, remainder, h]

/-- `num / den / 2 ^ q`, rounded. -/
def mantissaAt (num den : Nat) (q : ℤ) : Nat :=
  match q with
  | .ofNat k => roundHalfEven num (den * Nat.pow 2 k)
  | .negSucc k => roundHalfEven (num * Nat.pow 2 (k + 1)) den

theorem mantissaAt_scale {num den c : Nat} (hc : 0 < c) (q : ℤ) :
    mantissaAt (c * num) (c * den) q = mantissaAt num den q := by
  cases q with
  | ofNat k => simp only [mantissaAt, Nat.mul_assoc, roundHalfEven_scale hc]
  | negSucc k => simp only [mantissaAt, Nat.mul_assoc, roundHalfEven_scale hc]

/-- A multiple of `2 ^ q` is not rounded. -/
theorem mantissaAt_exact {num den m : Nat} {q : ℤ} (hd : 0 < den)
    (h : (num : ℚ) / den = m * 2 ^ q) : mantissaAt num den q = m := by
  have hd' : (den : ℚ) ≠ 0 := by exact_mod_cast hd.ne'
  rw [div_eq_iff hd'] at h
  cases q with
  | ofNat k =>
    have same : num = m * (den * Nat.pow 2 k) := by
      rw [← Nat.cast_inj (R := ℚ), h]
      push_cast [Nat.pow_eq, Int.ofNat_eq_natCast, zpow_natCast]
      ring
    rw [mantissaAt, same]
    exact roundHalfEven_mul (Nat.mul_pos hd (Nat.two_pow_pos k))
  | negSucc k =>
    have same : num * Nat.pow 2 (k + 1) = m * den := by
      rw [← Nat.cast_inj (R := ℚ)]
      push_cast [Nat.pow_eq]
      rw [h, zpow_negSucc]
      field_simp
    rw [mantissaAt, same, roundHalfEven_mul hd]

theorem le_mantissaAt {num den m : Nat} {q : ℤ} (hd : 0 < den)
    (h : (m : ℚ) * 2 ^ q ≤ num / den) : m ≤ mantissaAt num den q := by
  have hd' : (0 : ℚ) < den := by exact_mod_cast hd
  rw [le_div_iff₀ hd'] at h
  cases q with
  | ofNat k =>
    refine le_trans ((Nat.le_div_iff_mul_le (Nat.mul_pos hd (Nat.two_pow_pos k))).mpr ?_)
      (le_roundHalfEven _ _)
    rw [← Nat.cast_le (α := ℚ)]
    push_cast
    rw [Int.ofNat_eq_natCast, zpow_natCast] at h
    linarith
  | negSucc k =>
    refine le_trans ((Nat.le_div_iff_mul_le hd).mpr ?_) (le_roundHalfEven _ _)
    rw [← Nat.cast_le (α := ℚ)]
    push_cast [Nat.pow_eq]
    rw [zpow_negSucc, mul_assoc, mul_left_comm, inv_mul_le_iff₀ (by positivity)] at h
    linarith

theorem mantissaAt_small {num den : Nat} {q : ℤ} (hd : 0 < den)
    (h : (num : ℚ) / den < 2 ^ (q - 1)) : mantissaAt num den q = 0 := by
  have hd' : (0 : ℚ) < den := by exact_mod_cast hd
  rw [div_lt_iff₀ hd', zpow_sub_one₀ (by norm_num)] at h
  have twice : 2 * (num : ℚ) < 2 ^ q * den := by linarith
  cases q with
  | ofNat k =>
    refine roundHalfEven_small ?_
    rw [← Nat.cast_lt (α := ℚ)]
    push_cast [Nat.pow_eq]
    rw [Int.ofNat_eq_natCast, zpow_natCast] at twice
    linarith
  | negSucc k =>
    refine roundHalfEven_small ?_
    rw [← Nat.cast_lt (α := ℚ)]
    push_cast [Nat.pow_eq]
    rw [zpow_negSucc, lt_inv_mul_iff₀ (by positivity)] at twice
    linarith

theorem nearest_eq {num : Nat} (hn : num ≠ 0) (den : Nat) :
    nearest num den =
      let q := max (-1074) (binaryOrder num den - 52)
      min infinity ((q + 1074).toNat * fullMantissa + mantissaAt num den q) := by
  rw [nearest, if_neg hn]
  rfl

theorem nearest_scale {num den c : Nat} (hd : 0 < den) (hc : 0 < c) :
    nearest (c * num) (c * den) = nearest num den := by
  rcases Nat.eq_zero_or_pos num with rfl | hn
  · simp [nearest]
  · rw [nearest_eq (Nat.mul_pos hc hn).ne', nearest_eq hn.ne', binaryOrder_scale hn hd hc]
    simp only [mantissaAt_scale hc]

theorem nearest_congr {num den num' den' : Nat} (hd : 0 < den) (hd' : 0 < den')
    (h : (num : ℚ) / den = num' / den') : nearest num den = nearest num' den' := by
  rw [div_eq_div_iff (by exact_mod_cast hd.ne') (by exact_mod_cast hd'.ne')] at h
  have cross : num * den' = num' * den := by exact_mod_cast h
  calc nearest num den = nearest (den' * num) (den' * den) := (nearest_scale hd hd').symm
    _ = nearest (den * num') (den * den') := by
      rw [Nat.mul_comm den' num, Nat.mul_comm den num', cross, Nat.mul_comm den' den]
    _ = nearest num' den' := nearest_scale hd' hd

/-! ### Exact values -/

theorem parts_subnormal {bits : Nat} (h : bits < fullMantissa) : parts bits = (bits, -1074) := by
  rw [parts, if_pos h]

theorem parts_normal {bits : Nat} (h : fullMantissa ≤ bits) :
    parts bits =
      (fullMantissa + bits % fullMantissa, ((bits / fullMantissa : Nat) : ℤ) - 1075) := by
  rw [parts, if_neg (Nat.not_lt.mpr h)]

theorem isOrder_mul {m a : Nat} {e : ℤ} (low : 2 ^ a ≤ m) (high : m < 2 ^ (a + 1)) :
    IsOrder (m * 2 ^ e) (a + e) := by
  have h2 : (2 : ℚ) ≠ 0 := by norm_num
  have low' : (2 : ℚ) ^ (a : ℤ) ≤ m := by exact_mod_cast low
  have high' : (m : ℚ) < 2 ^ ((a : ℤ) + 1) := by exact_mod_cast high
  constructor
  · rw [zpow_add₀ h2]
    gcongr
  · rw [show (a : ℤ) + e + 1 = a + 1 + e by ring, zpow_add₀ h2]
    gcongr

theorem ratio_eq_zero {bits : Nat} : ratio bits = 0 ↔ bits = 0 := by
  have power : (2 : ℚ) ^ (parts bits).2 ≠ 0 := zpow_ne_zero _ (by norm_num)
  rw [ratio, mul_eq_zero, or_iff_left power, Nat.cast_eq_zero]
  rcases Nat.lt_or_ge bits fullMantissa with h | h
  · rw [parts_subnormal h]
  · rw [parts_normal h]
    simp only [fullMantissa] at h ⊢
    omega

theorem quotient_ratio (bits : Nat) :
    0 < (quotient bits).2 ∧ ((quotient bits).1 : ℚ) / (quotient bits).2 = ratio bits := by
  unfold quotient ratio
  rcases parts bits with ⟨m, q | q⟩
  · exact ⟨Nat.one_pos, by push_cast [Nat.pow_eq]; simp⟩
  · refine ⟨Nat.two_pow_pos _, ?_⟩
    dsimp only
    rw [zpow_negSucc, div_eq_mul_inv]
    push_cast [Nat.pow_eq]
    rfl

/-- The value of a finite pattern is rounded to the pattern. -/
theorem nearest_ratio {num den bits : Nat} (hd : 0 < den) (hb : bits < infinity)
    (h : (num : ℚ) / den = ratio bits) : nearest num den = bits := by
  have hd' : (den : ℚ) ≠ 0 := by exact_mod_cast hd.ne'
  rcases Nat.eq_zero_or_pos num with rfl | hn
  · rw [Nat.cast_zero, zero_div, eq_comm, ratio_eq_zero] at h
    rw [h, nearest, if_pos rfl]
  have order := binaryOrder_isOrder hn hd
  rw [h] at order
  have mantissa := mantissaAt_exact hd h
  have exponent : max (-1074) (binaryOrder num den - 52) = (parts bits).2 := by
    rcases Nat.lt_or_ge bits fullMantissa with sub | normal
    · -- A mantissa of at most 52 bits needs the least exponent.
      have small : ratio bits < 2 ^ (-1022 : ℤ) := by
        rw [ratio, parts_subnormal sub]
        have : (bits : ℚ) < 2 ^ 52 := by exact_mod_cast sub
        calc (bits : ℚ) * 2 ^ (-1074 : ℤ) < 2 ^ (52 : ℕ) * 2 ^ (-1074 : ℤ) := by gcongr
          _ = 2 ^ (-1022 : ℤ) := by rw [← zpow_natCast, ← zpow_add₀ (by norm_num)]; rfl
      have := isOrder_lt order small
      rw [parts_subnormal sub]
      omega
    · have full := parts_normal normal
      have bound : bits % fullMantissa < fullMantissa := Nat.mod_lt _ (by decide)
      have same := isOrder_unique order (isOrder_mul (a := 52) (e := (parts bits).2)
        (m := (parts bits).1) (by rw [full]; exact Nat.le_add_right _ _)
        (by rw [full]; simp only [fullMantissa] at bound ⊢; omega))
      rw [same, full]
      have : 1 ≤ bits / fullMantissa := (Nat.one_le_div_iff (by decide)).mpr normal
      simp only
      omega
  rw [nearest_eq hn.ne']
  simp only [exponent, mantissa]
  rcases Nat.lt_or_ge bits fullMantissa with sub | normal
  · rw [parts_subnormal sub]
    simp only [fullMantissa, infinity] at hb sub ⊢
    omega
  · rw [parts_normal normal]
    simp only [fullMantissa, infinity] at hb normal ⊢
    omega

theorem nearest_large {num den : Nat} (hd : 0 < den) (h : (2 : ℚ) ^ (1024 : ℤ) ≤ num / den) :
    nearest num den = infinity := by
  have hn : num ≠ 0 := by
    rintro rfl
    rw [Nat.cast_zero, zero_div] at h
    exact absurd h (not_le.mpr (by positivity))
  have order := binaryOrder_isOrder (Nat.pos_of_ne_zero hn) hd
  have high := isOrder_le order h
  have exponent : max (-1074) (binaryOrder num den - 52) = binaryOrder num den - 52 := by omega
  have mantissa : 2 ^ 52 ≤ mantissaAt num den (binaryOrder num den - 52) := by
    refine le_mantissaAt hd (le_trans (le_of_eq ?_) order.1)
    rw [Nat.cast_pow, Nat.cast_ofNat, ← zpow_natCast, ← zpow_add₀ (by norm_num)]
    congr 1
    push_cast
    ring
  rw [nearest_eq hn]
  simp only [exponent, fullMantissa, infinity]
  omega

theorem nearest_tiny {num den : Nat} (hd : 0 < den) (h : (num : ℚ) / den < 2 ^ (-1075 : ℤ)) :
    nearest num den = 0 := by
  rcases Nat.eq_zero_or_pos num with rfl | hn
  · rw [nearest, if_pos rfl]
  have low := isOrder_lt (binaryOrder_isOrder hn hd) h
  have exponent : max (-1074) (binaryOrder num den - 52) = -1074 := by omega
  rw [nearest_eq hn.ne']
  simp only [exponent, mantissaAt_small hd (q := -1074) h]
  rfl

end RayScene.Double
