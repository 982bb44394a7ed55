import Mathlib.Data.Rat.Cast.Order
import Mathlib.Tactic.NormNum
import Reckoner.Proofs.Binary64.Rounding
import Reckoner.Proofs.Decimal.Digits

/-!
# The values of decimals

A decimal as a rational number.  Its rank depends on the value only, in increasing order, and its
leading exponent says between which powers of ten the value lies.
-/

namespace Reckoner.Decimal

variable {d d' : Decimal}

/-- The exact value. -/
def value (d : Decimal) : ℚ := d.coefficient * 10 ^ d.exponent

/-- A value with a sign in front. -/
def withSign (negative : Bool) (v : ℚ) : ℚ := if negative then -v else v

/-- The rank of the nearest magnitude, without an upper end. -/
def rank (d : Decimal) : Nat := nearestRank (d.numerator * unitsPerOne) d.denominator

theorem pow_toNat_div_pow_toNat (e : Int) :
    (10 : ℚ) ^ e.toNat / 10 ^ (-e).toNat = 10 ^ e := by
  rcases Int.le_total 0 e with nonneg | nonpos
  · lift e to Nat using nonneg
    simp
  · obtain ⟨k, rfl⟩ : ∃ k : Nat, e = -k := ⟨e.natAbs, by omega⟩
    simp

theorem denominator_pos (d : Decimal) : 0 < d.denominator := Nat.pow_pos (by decide)

theorem value_eq_div (d : Decimal) : d.value = d.numerator / d.denominator := by
  rw [value, ← pow_toNat_div_pow_toNat, numerator, denominator, Nat.pow_eq, Nat.pow_eq]
  push_cast
  rw [mul_div_assoc]

/-- A greater decimal has no smaller rank. -/
theorem rank_le_rank (h : d.value ≤ d'.value) : d.rank ≤ d'.rank := by
  have positive : (0 : ℚ) < d.denominator := Nat.cast_pos.2 d.denominator_pos
  have positive' : (0 : ℚ) < d'.denominator := Nat.cast_pos.2 d'.denominator_pos
  rw [value_eq_div, value_eq_div, div_le_div_iff₀ positive positive'] at h
  have cross : d.numerator * d'.denominator ≤ d'.numerator * d.denominator := by exact_mod_cast h
  apply nearestRank_le_nearestRank d.denominator_pos d'.denominator_pos
  calc d.numerator * unitsPerOne * d'.denominator
    _ = d.numerator * d'.denominator * unitsPerOne := Nat.mul_right_comm _ _ _
    _ ≤ d'.numerator * d.denominator * unitsPerOne := Nat.mul_le_mul_right _ cross
    _ = d'.numerator * unitsPerOne * d.denominator := Nat.mul_right_comm _ _ _

theorem rank_congr (h : d.value = d'.value) : d.rank = d'.rank :=
  Nat.le_antisymm (rank_le_rank (le_of_eq h)) (rank_le_rank (le_of_eq h.symm))

section LeadingExponent

theorem pow_leadingExponent_le (nonzero : d.coefficient ≠ 0) :
    (10 : ℚ) ^ d.leadingExponent ≤ d.value := by
  have positive := Nat.pos_of_ne_zero nonzero
  have least : (10 : ℚ) ^ (digitCount d.coefficient - 1) ≤ d.coefficient := by
    exact_mod_cast pow_digitCount_le positive
  have exponent : d.leadingExponent = (digitCount d.coefficient - 1 : Nat) + d.exponent := by
    have := digitCount_pos positive
    unfold leadingExponent
    omega
  rw [exponent, zpow_add₀ (by norm_num), zpow_natCast, value]
  exact mul_le_mul_of_nonneg_right least (zpow_nonneg (by norm_num) _)

theorem value_lt_pow (d : Decimal) : d.value < (10 : ℚ) ^ (d.leadingExponent + 1) := by
  have greatest : (d.coefficient : ℚ) < 10 ^ digitCount d.coefficient := by
    exact_mod_cast lt_pow_digitCount d.coefficient
  have exponent : d.leadingExponent + 1 = (digitCount d.coefficient : Nat) + d.exponent := by
    unfold leadingExponent
    omega
  rw [exponent, zpow_add₀ (by norm_num), zpow_natCast, value]
  exact mul_lt_mul_of_pos_right greatest (zpow_pos (by norm_num) _)

/-- The powers of ten up to the leading one are those up to the value. -/
theorem le_leadingExponent_iff {k : Int} (nonzero : d.coefficient ≠ 0) :
    k ≤ d.leadingExponent ↔ (10 : ℚ) ^ k ≤ d.value := by
  constructor
  · intro h
    exact le_trans (zpow_le_zpow_right₀ (by norm_num) h) (pow_leadingExponent_le nonzero)
  · intro h
    have below := lt_of_le_of_lt h d.value_lt_pow
    have := (zpow_lt_zpow_iff_right₀ (by norm_num : (1 : ℚ) < 10)).1 below
    omega

theorem coefficient_eq_zero_iff : d.coefficient = 0 ↔ d.value = 0 := by
  simp [value, zpow_ne_zero]

theorem coefficient_eq_zero_congr (h : d.value = d'.value) :
    d.coefficient = 0 ↔ d'.coefficient = 0 := by
  rw [coefficient_eq_zero_iff, coefficient_eq_zero_iff, h]

theorem leadingExponent_congr (nonzero : d.coefficient ≠ 0) (h : d.value = d'.value) :
    d.leadingExponent = d'.leadingExponent := by
  have nonzero' := (coefficient_eq_zero_congr h).not.1 nonzero
  apply Int.le_antisymm
  · rw [le_leadingExponent_iff nonzero', ← h, ← le_leadingExponent_iff nonzero]
  · rw [le_leadingExponent_iff nonzero, h, ← le_leadingExponent_iff nonzero']

end LeadingExponent

section Trimmed

/-- Trimming keeps the value. -/
theorem value_trimmed (d : Decimal) : d.trimmed.value = d.value := by
  fun_induction trimmed d with
  | case1 d zero => simp [value, zero]
  | case2 d nonzero divisible ih =>
      have whole : d.coefficient = d.coefficient / 10 * 10 := by omega
      rw [ih, value, value, zpow_add₀ (by norm_num)]
      conv_rhs => rw [whole]
      push_cast
      ring
  | case3 => rfl

theorem coefficient_trimmed_ne_zero (nonzero : d.coefficient ≠ 0) : d.trimmed.coefficient ≠ 0 :=
  (coefficient_eq_zero_congr d.value_trimmed).not.2 nonzero

end Trimmed

end Reckoner.Decimal
