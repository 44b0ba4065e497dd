import RayScene.Number.Decimal
import RayScene.Proofs.Number.Pattern
import RayScene.Proofs.Number.Rounding

/-!
# Decimals and the doubles next to them

The double that a decimal is read as depends on the value of the decimal (`Decimal.nearest_congr`),
and the shortest decimal of a finite double is read as that double (`Decimal.shortest_reads`).
-/

namespace RayScene.Decimal

/-- The binary logarithm bounds the decimal one: 2^3 < 10. -/
theorem digits_lt (digits : Nat) : (digits : ℚ) < 10 ^ (digits.log2 / 3 + 1) := by
  have binary : digits < 2 ^ (3 * (digits.log2 / 3 + 1)) :=
    Nat.lt_log2_self.trans_le (Nat.pow_le_pow_right (by norm_num) (by omega))
  rw [Nat.pow_mul] at binary
  have decimal : (2 ^ 3) ^ (digits.log2 / 3 + 1) ≤ 10 ^ (digits.log2 / 3 + 1) :=
    Nat.pow_le_pow_left (by norm_num) _
  exact_mod_cast binary.trans_le decimal

theorem tiny_power : (10 : ℚ) ^ (-326 : ℤ) < 2 ^ (-1075 : ℤ) := by
  have natural : 2 ^ 1075 < 10 ^ 326 := by decide +kernel
  have rational : (2 : ℚ) ^ (1075 : ℤ) < 10 ^ (326 : ℤ) := by exact_mod_cast natural
  rw [zpow_neg, zpow_neg]
  exact inv_strictAnti₀ (by positivity) rational

theorem large_power : (2 : ℚ) ^ (1024 : ℤ) ≤ 10 ^ (311 : ℤ) := by
  have natural : 2 ^ 1024 ≤ 10 ^ 311 := by decide +kernel
  exact_mod_cast natural

/-- A decimal is read as the double nearest to its value, however far out that is. -/
theorem nearest_eq {digits : Nat} {exponent : ℤ} {num den : Nat} (hd : 0 < den)
    (h : (num : ℚ) / den = digits * 10 ^ exponent) :
    nearest digits exponent = Double.nearest num den := by
  have hd' : (den : ℚ) ≠ 0 := by exact_mod_cast hd.ne'
  unfold nearest
  split
  · rename_i zero
    rw [zero, Nat.cast_zero, zero_mul, div_eq_iff hd', zero_mul] at h
    rw [Double.nearest, if_pos (by exact_mod_cast h)]
  rename_i nonzero
  have one : (1 : ℚ) ≤ digits := by exact_mod_cast Nat.one_le_iff_ne_zero.mpr nonzero
  split
  · rename_i large
    refine (Double.nearest_large hd ?_).symm
    rw [h]
    calc (2 : ℚ) ^ (1024 : ℤ) ≤ 10 ^ (311 : ℤ) := large_power
      _ ≤ 10 ^ exponent := zpow_le_zpow_right₀ (by norm_num) (by omega)
      _ = 1 * 10 ^ exponent := (one_mul _).symm
      _ ≤ digits * 10 ^ exponent := by gcongr
  split
  · rename_i tiny
    refine (Double.nearest_tiny hd ?_).symm
    rw [h]
    calc (digits : ℚ) * 10 ^ exponent
        < 10 ^ (digits.log2 / 3 + 1) * 10 ^ exponent := by
          have := digits_lt digits
          gcongr
      _ = 10 ^ (((digits.log2 / 3 + 1 : Nat) : ℤ) + exponent) := by
          rw [zpow_add₀ (by norm_num), zpow_natCast]
      _ ≤ 10 ^ (-326 : ℤ) := zpow_le_zpow_right₀ (by norm_num) (by omega)
      _ < 2 ^ (-1075 : ℤ) := tiny_power
  cases exponent with
  | ofNat k =>
    refine Double.nearest_congr Nat.one_pos hd ?_
    rw [h]
    push_cast [Nat.pow_eq]
    simp
  | negSucc k =>
    refine Double.nearest_congr (Nat.pow_pos (by norm_num)) hd ?_
    rw [h, zpow_negSucc, div_eq_mul_inv]
    push_cast [Nat.pow_eq]
    rfl

theorem exists_quotient (digits : Nat) (exponent : ℤ) :
    ∃ num den : Nat, 0 < den ∧ (num : ℚ) / den = digits * 10 ^ exponent := by
  cases exponent with
  | ofNat k => exact ⟨digits * 10 ^ k, 1, Nat.one_pos, by push_cast; simp⟩
  | negSucc k =>
    refine ⟨digits, 10 ^ (k + 1), Nat.pow_pos (by norm_num), ?_⟩
    rw [zpow_negSucc, div_eq_mul_inv]
    push_cast
    rfl

theorem nearest_congr {digits digits' : Nat} {exponent exponent' : ℤ}
    (h : (digits : ℚ) * 10 ^ exponent = digits' * 10 ^ exponent') :
    nearest digits exponent = nearest digits' exponent' := by
  obtain ⟨num, den, hd, quotient⟩ := exists_quotient digits exponent
  rw [nearest_eq hd quotient, nearest_eq hd (quotient.trans h)]

/-- A decimal that has the value of a finite pattern is read as that pattern. -/
theorem nearest_ratio {digits bits : Nat} {exponent : ℤ} (hb : bits < Double.infinity)
    (h : (digits : ℚ) * 10 ^ exponent = Double.ratio bits) : nearest digits exponent = bits := by
  obtain ⟨hd, quotient⟩ := Double.quotient_ratio bits
  rw [nearest_eq hd (quotient.trans h.symm), Double.nearest_ratio hd hb quotient]

/-! ### The shortest decimal -/

theorem onGrid_reads {bits n : Nat} {place : ℤ} (h : onGrid bits place = some n) :
    nearest n place = bits := by
  unfold onGrid at h
  dsimp only at h
  split at h
  · rename_i below _
    cases h
    exact beq_iff_eq.mp below
  · rename_i _ above
    cases h
    exact beq_iff_eq.mp above
  · cases h
  · rename_i below above
    split at h
    · cases h
      exact beq_iff_eq.mp below
    · cases h
      exact beq_iff_eq.mp above
    · -- Halfway between two points of the grid, both of which are read as the double.
      cases h
      rcases Nat.mod_two_eq_zero_or_one
        (truncate (Double.quotient bits).1 (Double.quotient bits).2 place) with even | odd
      · rw [even]
        exact beq_iff_eq.mp below
      · rw [odd]
        exact beq_iff_eq.mp above

theorem firstOnGrid_reads {bits n : Nat} {start place : ℤ} {count : Nat}
    (h : firstOnGrid bits start count = some (n, place)) : nearest n place = bits := by
  induction count generalizing start with
  | zero => cases h
  | succ count ih =>
    unfold firstOnGrid at h
    split at h
    · rename_i hit
      cases h
      exact onGrid_reads hit
    · exact ih h

theorem exact_ratio (bits : Nat) :
    ((exact bits).1 : ℚ) * 10 ^ (exact bits).2 = Double.ratio bits := by
  unfold exact Double.ratio
  rcases Double.parts bits with ⟨m, q | q⟩
  · push_cast [Nat.pow_eq]
    simp
  · dsimp only
    rw [zpow_negSucc, zpow_negSucc, show (10 : ℚ) = 5 * 2 by norm_num, mul_pow]
    push_cast [Nat.pow_eq]
    field_simp

theorem shortest_reads {x : Float} (finite : Double.isFinite x = true) :
    nearest (shortest x).digits (shortest x).exponent = Double.magnitude x := by
  have hb : Double.magnitude x < Double.infinity := of_decide_eq_true finite
  unfold shortest
  dsimp only
  split
  · rename_i zero
    rw [zero]
    rfl
  · cases hit : firstOnGrid (Double.magnitude x)
        (decimalOrder (Double.quotient (Double.magnitude x)).1
          (Double.quotient (Double.magnitude x)).2 + 1) 18 with
    | some found => exact firstOnGrid_reads hit
    | none => exact nearest_ratio hb (exact_ratio _)

end RayScene.Decimal
