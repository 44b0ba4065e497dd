import Mathlib
import RayScene.Number.Double

/-!
# Bit patterns of doubles

A double is put together from its sign and its pattern (`ofMagnitude_magnitude`), and every pattern
up to that of infinity is the pattern of a double (`magnitude_ofMagnitude`).
-/

namespace RayScene.Double
open Float.Model (Format)
open Float.Model.UnpackedFloat

theorem packComponents_toNat (s : Sign) (e : BitVec 11) (m : BitVec 52) :
    (packComponents Format.binary64 s e m).toNat =
      s.toBitVec.toNat * 2 ^ 63 + e.toNat * 2 ^ 52 + m.toNat := by
  have hm := m.isLt
  have he := e.isLt
  simp only [packComponents, BitVec.toNat_append]
  rw [← Nat.shiftLeft_add_eq_or_of_lt he, ← Nat.shiftLeft_add_eq_or_of_lt hm]
  simp only [Nat.shiftLeft_eq]
  omega

/-- Patterns up to that of infinity are not NaN. -/
theorem valid_of_le {b : BitVec Format.binary64.numBits} (h : b.toNat % signBit ≤ infinity) :
    Format.binary64.Valid b := by
  refine ⟨fun top nonzero => absurd ?_ nonzero⟩
  apply BitVec.eq_of_toNat_eq
  have fields := congrArg BitVec.toNat (packComponents_unpackSign_unpackExponent_unpackMantissa b)
  rw [packComponents_toNat, top] at fields
  simp only [signBit, infinity] at h
  have : (-1#11).toNat = 2047 := by decide
  rw [this] at fields
  show (unpackMantissa b).toNat = 0
  have manLt : (unpackMantissa b).toNat < 2 ^ 52 := (unpackMantissa b).isLt
  omega

theorem toBits_ofBits {w : UInt64} (h : w.toNat % signBit ≤ infinity) :
    (Float.ofBits w).toBits = w := by
  simp only [Float.toBits, Float.ofBits, Float.Model.ofBits, Float.Model.pack,
    pack_unpack_of_valid (valid_of_le (b := w.toBitVec) h)]

theorem toNat_ofNat_pattern (negative : Bool) {bits : Nat} (h : bits ≤ infinity) :
    (UInt64.ofNat (if negative then signBit + bits else bits)).toNat =
      if negative then signBit + bits else bits := by
  simp only [UInt64.toNat_ofNat', signBit, infinity] at h ⊢
  split <;> omega

theorem magnitude_ofMagnitude (negative : Bool) {bits : Nat} (h : bits ≤ infinity) :
    magnitude (ofMagnitude negative bits) = bits := by
  have word := toNat_ofNat_pattern negative h
  have mod : (UInt64.ofNat (if negative then signBit + bits else bits)).toNat % signBit = bits := by
    rw [word]
    simp only [signBit, infinity] at h ⊢
    split <;> omega
  rw [magnitude, ofMagnitude, toBits_ofBits (by rw [mod]; exact h), mod]

theorem isNegative_ofMagnitude (negative : Bool) {bits : Nat} (h : bits ≤ infinity) :
    isNegative (ofMagnitude negative bits) = negative := by
  have word := toNat_ofNat_pattern negative h
  have mod :
      (UInt64.ofNat (if negative then signBit + bits else bits)).toNat % signBit ≤ infinity := by
    rw [word]
    simp only [signBit, infinity] at h ⊢
    split <;> omega
  rw [isNegative, ofMagnitude, toBits_ofBits mod, word]
  simp only [signBit, infinity] at h ⊢
  cases negative
  · simp only [Bool.false_eq_true, if_false, decide_eq_false_iff_not]
    omega
  · simp only [if_true, decide_eq_true_eq]
    omega

theorem ofMagnitude_magnitude (x : Float) : ofMagnitude (isNegative x) (magnitude x) = x := by
  have word :
      UInt64.ofNat (if isNegative x then signBit + magnitude x else magnitude x) = x.toBits := by
    apply UInt64.toNat_inj.mp
    have bound := x.toBits.toNat_lt
    rw [UInt64.toNat_ofNat']
    by_cases sign : signBit ≤ x.toBits.toNat
    · simp only [isNegative, magnitude, decide_eq_true sign, if_true]
      simp only [signBit] at sign ⊢
      omega
    · simp only [isNegative, magnitude, decide_eq_false sign, Bool.false_eq_true, if_false]
      simp only [signBit] at sign ⊢
      omega
  rw [ofMagnitude, word, Float.ofBits_toBits]

end RayScene.Double
