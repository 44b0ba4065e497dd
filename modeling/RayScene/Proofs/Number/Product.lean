import Mathlib
import RayScene.Proofs.Number.Pattern

/-!
# Products of doubles

The eleven bits above the mantissa, the `field`, say how large a double can be. The field of a
product is bounded by the fields of the factors (`field_mul`): rounding moves the exponent of a
product by 54 at most. So a finite double times one below a half in magnitude is finite
(`isFinite_mul`).
-/

namespace RayScene.Double
open Float.Model (Format UnpackedFloat totalExponent)
open Float.Model.UnpackedFloat

def half : Nat := 0x3FE0000000000000

/-- The exponent as the pattern holds it: 0 for the subnormal doubles, 2047 for those that are not
finite. -/
def field (x : Float) : Nat := magnitude x / fullMantissa

theorem isFinite_iff_field {x : Float} : isFinite x = true ↔ field x ≤ 2046 := by
  rw [isFinite, decide_eq_true_iff, field]
  simp only [infinity, fullMantissa]
  omega

theorem isInfinite_of_isFinite {x : Float} (finite : isFinite x = true) : isInfinite x = false := by
  have below : magnitude x < infinity := of_decide_eq_true finite
  exact beq_eq_false_iff_ne.mpr below.ne

/-- A finite double is zero, or has a mantissa of at most 53 bits and its exponent in its field. -/
theorem unpack_of_isFinite {x : Float} (finite : isFinite x = true) :
    (∃ s, x.toModel.unpack = .zero s) ∨
      ∃ s m e positive, x.toModel.unpack = .finite s m e positive ∧ m < 2 ^ 53 ∧
        e ≤ max 1 (field x) - 1075 := by
  set b : BitVec Format.binary64.numBits := x.toBits.toBitVec with word
  have fields := congrArg BitVec.toNat (packComponents_unpackSign_unpackExponent_unpackMantissa b)
  rw [packComponents_toNat] at fields
  have exponentLt := (unpackExponent b).isLt
  have mantissaLt := (unpackMantissa b).isLt
  have whole : magnitude x = (unpackExponent b).toNat * 2 ^ 52 + (unpackMantissa b).toNat := by
    show b.toNat % signBit = _
    simp only [signBit]
    omega
  have held : field x = (unpackExponent b).toNat := by
    rw [field]
    simp only [fullMantissa]
    omega
  have notTop : unpackExponent b ≠ -1#_ := by
    intro top
    have value : (unpackExponent b).toNat = 2047 := by rw [top]; decide
    have below := isFinite_iff_field.mp finite
    omega
  have unpacked : x.toModel.unpack = UnpackedFloat.unpack Format.binary64 b := rfl
  rw [unpacked, UnpackedFloat.unpack]
  dsimp only
  rw [if_neg notTop]
  split
  case isTrue low =>
    split
    case isTrue => exact .inl ⟨_, rfl⟩
    case isFalse nonzero =>
      have positive : 0 < (unpackMantissa b).toNat :=
        Nat.pos_of_ne_zero fun zero => nonzero (BitVec.eq_of_toNat_eq zero)
      refine .inr ⟨_, _, _, positive, rfl, by omega, ?_⟩
      have zero : (unpackExponent b).toNat = 0 := by rw [low]; rfl
      rw [held, zero]
      simp [Format.exponentBias]
  case isFalse =>
    have positive : 0 < (1#1 ++ unpackMantissa b).toNat := by
      rw [BitVec.toNat_append, ← Nat.shiftLeft_add_eq_or_of_lt mantissaLt, Nat.shiftLeft_eq]
      simp
    refine .inr ⟨_, _, _, positive, rfl, ?_, ?_⟩
    · exact (1#1 ++ unpackMantissa b).isLt
    · rw [held]
      simp only [Format.exponentBias]
      omega

def ExponentAtMost (top : ℤ) : UnpackedFloat → Prop
  | .zero _ => True
  | .finite _ _ e _ => e ≤ top
  | _ => False

theorem ExponentAtMost.mono {u : UnpackedFloat} {top top' : ℤ} (bound : ExponentAtMost top u)
    (le : top ≤ top') : ExponentAtMost top' u := by
  cases u with
  | zero s => trivial
  | finite s m e positive => exact le_trans bound le
  | infinity s => exact bound
  | notANumber => exact bound

/-- Up to the greatest exponent a double is packed with its exponent in its field. -/
theorem field_pack {u : UnpackedFloat} {top : ℤ} (bound : ExponentAtMost top u)
    (small : top ≤ 971) : field (.ofModel (Float.Model.pack u)) ≤ (top + 1075).toNat := by
  have packed (s : Sign) (exponent : BitVec 11) (mantissa : BitVec 52) :
      (packComponents Format.binary64 s exponent mantissa).toNat % signBit / fullMantissa =
        exponent.toNat := by
    have exponentLt := exponent.isLt
    have mantissaLt := mantissa.isLt
    rw [packComponents_toNat]
    simp only [signBit, fullMantissa]
    omega
  have word : field (.ofModel (Float.Model.pack u)) =
      (UnpackedFloat.pack Format.binary64 u).toNat % signBit / fullMantissa := rfl
  have bias : (Format.binary64.exponentBias : ℤ) = 1023 := rfl
  rw [word]
  cases u with
  | zero s =>
    exact (packed s 0 0).trans_le (Nat.zero_le _)
  | finite s m e positive =>
    have low : e ≤ top := bound
    rw [UnpackedFloat.pack]
    dsimp only
    split
    case isTrue above =>
      simp only [bias] at above
      omega
    split
    case isTrue =>
      refine (packed s _ _).trans_le ?_
      rw [BitVec.toNat_ofNat, bias]
      omega
    case isFalse =>
      exact (packed s 0 _).trans_le (Nat.zero_le _)
  | infinity s => exact bound.elim
  | notANumber => exact bound.elim

theorem mantissa_shiftRight (em : ExtendedMantissa) (n : Nat) :
    (em >>> n).mantissa = em.mantissa / 2 ^ n := by
  show (n.repeat ExtendedMantissa.shiftRightOne em).mantissa = _
  induction n with
  | zero => simp [Nat.repeat]
  | succ n ih =>
    rw [Nat.repeat, ExtendedMantissa.shiftRightOne, ih, Nat.div_div_eq_div_mul, pow_succ]

theorem roundedMantissa_le (em : ExtendedMantissa) : em.roundedMantissa ≤ em.mantissa + 1 := by
  unfold ExtendedMantissa.roundedMantissa Accuracy.roundToNearestEven
  split <;> omega

theorem shiftToTargetExponent_eq (m : Nat) (e : ℤ) (accuracy : Accuracy) :
    let target := max ((m.log2 : ℤ) + 1 + e - 53) (-1074)
    shiftToTargetExponent Format.binary64 m e accuracy =
      (ExtendedMantissa.ofMantissaAndAccuracy m accuracy >>> (target - e).toNat, max e target) := by
  have least : Format.binary64.minExponent = -1074 := rfl
  have target : Format.binary64.targetExponent (totalExponent m e) =
      max ((m.log2 : ℤ) + 1 + e - 53) (-1074) := by
    rw [Format.targetExponent, least, totalExponent]
    rfl
  unfold shiftToTargetExponent shiftToExponent
  dsimp only
  rw [target, Prod.mk.injEq]
  exact ⟨rfl, by omega⟩

theorem mantissa_ofMantissaAndAccuracy (m : Nat) (accuracy : Accuracy) :
    (ExtendedMantissa.ofMantissaAndAccuracy m accuracy).mantissa = m := by
  cases accuracy with
  | exact => rfl
  | inexact order => cases order <;> rfl

theorem log2_lt_of_lt {m k : Nat} (positive : 0 < k) (h : m < 2 ^ k) : m.log2 < k := by
  by_cases zero : m = 0
  · simpa [zero] using positive
  · exact (Nat.log2_lt zero).mpr h

/-- What is rounded has the exponent that its rounded mantissa is shifted to. -/
theorem roundWithAccuracy_exponentAtMost (s : Sign) {m : Nat} {e top : ℤ}
    (bound : let first := shiftToTargetExponent Format.binary64 m e .exact
      (shiftToTargetExponent Format.binary64 first.1.roundedMantissa first.2 .exact).2 ≤ top) :
    ExponentAtMost top (roundWithAccuracy Format.binary64 s m e .exact) := by
  unfold roundWithAccuracy
  dsimp only at bound ⊢
  split
  case isTrue => trivial
  case isFalse => exact bound

theorem roundWithAccuracy_exponent (s : Sign) {m : Nat} (e : ℤ) {bits : Nat}
    (size : m < 2 ^ (53 + bits)) :
    ExponentAtMost (max (e + bits) (-1074) + 1)
      (roundWithAccuracy Format.binary64 s m e .exact) := by
  have low : m.log2 < 53 + bits := log2_lt_of_lt (by omega) size
  apply roundWithAccuracy_exponentAtMost
  rw [shiftToTargetExponent_eq]
  dsimp only
  set shift := (max ((m.log2 : ℤ) + 1 + e - 53) (-1074) - e).toNat with amount
  set kept := ExtendedMantissa.ofMantissaAndAccuracy m .exact >>> shift with shifted
  -- All bits but 53 are dropped, and rounding up carries into one more at most.
  have narrow : kept.mantissa < 2 ^ 53 := by
    rw [shifted, mantissa_shiftRight, mantissa_ofMantissaAndAccuracy]
    apply Nat.div_lt_of_lt_mul
    rw [← pow_add]
    refine Nat.lt_log2_self.trans_le (Nat.pow_le_pow_right Nat.two_pos ?_)
    omega
  have carried : kept.roundedMantissa.log2 < 54 := by
    have rounded := roundedMantissa_le kept
    exact log2_lt_of_lt (by omega) (by omega)
  rw [shiftToTargetExponent_eq]
  dsimp only
  omega

/-! ### Products -/

/-- The fields of two factors together exceed that of the product by 1021 at least, if the product
is not subnormal. -/
theorem field_mul {x y : Float} (finite : isFinite x = true) (finite' : isFinite y = true) {n : Nat}
    (room : max 1 (field x) + max 1 (field y) ≤ n + 1021) (least : 2 ≤ n) (most : n ≤ 2046) :
    field (x * y) ≤ n := by
  have product : x * y =
      .ofModel (.pack (UnpackedFloat.mul Format.binary64 x.toModel.unpack y.toModel.unpack)) := rfl
  have top : ((n : ℤ) - 1075 + 1075).toNat = n := by omega
  suffices bound : ExponentAtMost (n - 1075)
      (UnpackedFloat.mul Format.binary64 x.toModel.unpack y.toModel.unpack) by
    rw [product, ← top]
    exact field_pack bound (by omega)
  rcases unpack_of_isFinite finite with ⟨s, zero⟩ | ⟨s, m, e, _, unpacked, size, low⟩
  · rcases unpack_of_isFinite finite' with ⟨t, zero'⟩ | ⟨t, k, f, _, unpacked', _⟩
    · rw [zero, zero']
      trivial
    · rw [zero, unpacked']
      trivial
  · rcases unpack_of_isFinite finite' with ⟨t, zero'⟩ | ⟨t, k, f, _, unpacked', size', low'⟩
    · rw [unpacked, zero']
      trivial
    · rw [unpacked, unpacked']
      have bits : m * k < 2 ^ (53 + 53) := by
        rw [pow_add]
        exact Nat.mul_lt_mul'' size size'
      have rounded := roundWithAccuracy_exponent (s * t) (e + f) bits
      refine rounded.mono ?_
      omega

theorem isFinite_mul {x y : Float} (finite : isFinite x = true) (small : magnitude y < half) :
    isFinite (x * y) = true := by
  have low : field y ≤ 1021 := by
    rw [field]
    simp only [half, fullMantissa] at small ⊢
    omega
  have top := isFinite_iff_field.mp finite
  have finite' : isFinite y = true := isFinite_iff_field.mpr (by omega)
  exact isFinite_iff_field.mpr (field_mul finite finite' (by omega) (by omega) le_rfl)

end RayScene.Double
