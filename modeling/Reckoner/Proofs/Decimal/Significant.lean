import Reckoner.Decimal.Significant
import Reckoner.Proofs.Decimal.Nearest

/-!
# Rounding magnitudes to significant digits

The decimal of a magnitude with some significant digits is its value rounded once.  Read as a number
and rounded again, it is read as the same number.
-/

namespace Reckoner

/-- A ratio is rounded to an integer like its value. -/
theorem halfEven_div {n d : Nat} (positive : 0 < d) : halfEven (n / d) = roundHalfEven n d := by
  have divisor : (0 : ℚ) < d := Nat.cast_pos.2 positive
  obtain ⟨most, least⟩ := roundHalfEven_near (n := n) positive
  have lower := (le_roundHalfEven_iff (n := n) positive).1 (Nat.le_refl (roundHalfEven n d))
  have upper :=
    (le_roundHalfEven_iff (n := n) positive).not.1 (Nat.not_succ_le_self (roundHalfEven n d))
  generalize roundHalfEven n d = k at *
  rw [halfEven_div_eq_iff divisor, Int.cast_natCast, Int.even_coe_nat, Nat.even_iff]
  have most' : 2 * ((k : ℚ) * d) ≤ 2 * n + d := by exact_mod_cast most
  have least' : 2 * (n : ℚ) ≤ 2 * (k * d) + d := by exact_mod_cast least
  refine ⟨abs_le.2 ⟨by linarith, by linarith⟩, fun tie => ?_⟩
  rcases (abs_eq (by linarith)).1 tie with above | below
  · have middle : 2 * n = 2 * (k * d) + d := by
      have : (2 : ℚ) * n = 2 * (k * d) + d := by linarith
      exact_mod_cast this
    rw [Nat.succ_mul k] at upper
    omega
  · have middle : 2 * (k * d) = 2 * n + d := by
      have : (2 : ℚ) * (k * d) = 2 * n + d := by linarith
      exact_mod_cast this
    omega

namespace Decimal

variable {magnitude : Magnitude} {n d places : Nat}

/-- The leading exponent of a ratio is that of a power of ten below it. -/
theorem pow_ratioLeadingExponent_le (positive : 0 < n) (positive' : 0 < d) :
    (10 : ℚ) ^ ratioLeadingExponent n d ≤ n / d := by
  have divisor : (0 : ℚ) < d := Nat.cast_pos.2 positive'
  rw [ratioLeadingExponent, le_div_iff₀ divisor]
  split
  case isTrue whole =>
    have quotient : 0 < n / d := Nat.div_pos whole positive'
    have exponent : (digitCount (n / d) : Int) - 1 = (digitCount (n / d) - 1 : Nat) := by
      have := digitCount_pos quotient
      omega
    rw [exponent, zpow_natCast]
    have least : 10 ^ (digitCount (n / d) - 1) * d ≤ n :=
      (Nat.mul_le_mul_right d (pow_digitCount_le quotient)).trans (Nat.div_mul_le_self n d)
    exact_mod_cast least
  case isFalse fraction =>
    have below := lt_pow_digitCount ((d - 1) / n)
    rw [Nat.div_lt_iff_lt_mul positive] at below
    rw [zpow_neg, zpow_natCast, inv_mul_le_iff₀ (pow_pos (by norm_num) _)]
    have least : d ≤ 10 ^ digitCount ((d - 1) / n) * n := by omega
    exact_mod_cast least

/-- A ratio stays below the power of ten after that of its leading exponent. -/
theorem lt_pow_ratioLeadingExponent (positive : 0 < n) (positive' : 0 < d) :
    (n / d : ℚ) < 10 ^ (ratioLeadingExponent n d + 1) := by
  have divisor : (0 : ℚ) < d := Nat.cast_pos.2 positive'
  rw [ratioLeadingExponent, div_lt_iff₀ divisor]
  split
  case isTrue whole =>
    rw [sub_add_cancel, zpow_natCast]
    have below : n < 10 ^ digitCount (n / d) * d :=
      (Nat.div_lt_iff_lt_mul positive').1 (lt_pow_digitCount (n / d))
    exact_mod_cast below
  case isFalse fraction =>
    have quotient : 0 < (d - 1) / n := Nat.div_pos (by omega) positive
    have exponent : -(digitCount ((d - 1) / n) : ℤ) + 1 = -(digitCount ((d - 1) / n) - 1 : Nat) := by
      have := digitCount_pos quotient
      omega
    rw [exponent, zpow_neg, zpow_natCast, ← div_eq_inv_mul, lt_div_iff₀ (pow_pos (by norm_num) _)]
    have reached : 10 ^ (digitCount ((d - 1) / n) - 1) * n ≤ d - 1 :=
      (Nat.mul_le_mul_right n (pow_digitCount_le quotient)).trans (Nat.div_mul_le_self _ n)
    have below : n * 10 ^ (digitCount ((d - 1) / n) - 1) < d := by
      rw [Nat.mul_comm]
      omega
    exact_mod_cast below

/-- The leading exponent of a ratio is that of its value. -/
theorem log_div (positive : 0 < n) (positive' : 0 < d) :
    Int.log 10 (n / d : ℚ) = ratioLeadingExponent n d := by
  rw [log_eq_iff (div_pos (Nat.cast_pos.2 positive) (Nat.cast_pos.2 positive'))]
  exact ⟨pow_ratioLeadingExponent_le positive positive',
    lt_pow_ratioLeadingExponent positive positive'⟩

/-- The step of the grid that a ratio is counted on is the unit of its last digit. -/
theorem lastUnit_div (positive : 0 < n) (positive' : 0 < d) :
    lastUnit places (n / d) = 10 ^ lastPlace places n d := by
  rw [lastUnit_eq (div_pos (Nat.cast_pos.2 positive) (Nat.cast_pos.2 positive'))
    (log_div positive positive'), lastPlace]

/-- Counting in powers of ten divides. -/
theorem inPowers_div (e : Int) :
    ((inPowers e n d).1 : ℚ) / (inPowers e n d).2 = n / d / 10 ^ e := by
  rw [inPowers, ← pow_toNat_div_pow_toNat, Nat.pow_eq, Nat.pow_eq]
  push_cast
  field_simp

theorem inPowers_pos (e : Int) (n : Nat) (positive : 0 < d) : 0 < (inPowers e n d).2 :=
  Nat.mul_pos positive (Nat.pow_pos (by decide))

theorem coefficient_ofRatio (places n d : Nat) : (ofRatio places n d).coefficient =
    roundHalfEven (inPowers (lastPlace places n d) n d).1
      (inPowers (lastPlace places n d) n d).2 := rfl

/-- A ratio is rounded to significant digits like its value. -/
theorem value_ofRatio (positive : 0 < n) (positive' : 0 < d) :
    (ofRatio places n d).value = roundedTo places (n / d) := by
  have counted := halfEven_div (n := (inPowers (lastPlace places n d) n d).1)
    (inPowers_pos (lastPlace places n d) n positive')
  rw [inPowers_div] at counted
  rw [roundedTo, lastUnit_div positive positive', counted, Int.cast_natCast]
  rfl

/-- The number of significant digits that are computed when some are asked for. -/
def countedPlaces (places : Nat) : Nat := max 1 (min places 800)

theorem value_significant (places : Nat) (magnitude : Magnitude) :
    (significant places magnitude).value = roundedTo (countedPlaces places) magnitude.value := by
  rw [significant]
  split
  case isTrue zero =>
    rw [Magnitude.value, zero, valueAt_zero, roundedTo_zero]
    simp [value]
  case isFalse nonzero =>
    have positive := Nat.pos_of_ne_zero (magnitude.units_eq_zero_iff.not.2 nonzero)
    exact value_ofRatio positive unitsPerOne_pos

theorem one_le_countedPlaces (places : Nat) : 1 ≤ countedPlaces places := Nat.le_max_left 1 _

/-- A greater magnitude is not rounded to a smaller decimal. -/
theorem value_significant_le {a b : Magnitude} (places : Nat) (order : a.rank ≤ b.rank) :
    (significant places a).value ≤ (significant places b).value := by
  rcases Nat.eq_zero_or_pos a.rank with zero | positive
  · have none : (significant places a).value = 0 := by
      rw [value_significant, Magnitude.value, zero, valueAt_zero, roundedTo_zero]
    exact none.le.trans (value_nonneg _)
  · rw [value_significant, value_significant]
    exact roundedTo_mono (one_le_countedPlaces places) (Magnitude.value_pos positive.ne')
      (strictMono_valueAt.monotone order)

section Again

/-- A power of ten half a gap above a power of two or closer, which stands a binade of gaps above
zero, has a unit that is less than half a gap: fewer digits than sixteen would not tell the two
apart, and the unit of sixteen digits is that fine. -/
theorem unit_lt_half_gap {gap unit : ℚ} (places : Nat)
    (most : 10 ^ places * unit ≤ binade * gap + gap / 2)
    (beyond : binade * gap + unit / 2 < 10 ^ places * unit) : unit < gap / 2 := by
  have size : (binade : ℚ) = 4503599627370496 := by norm_num [binade]
  rw [size] at most beyond
  by_contra wide
  have unit_pos : 0 < unit := by linarith
  rcases Nat.lt_or_ge places 16 with few | many
  · have scale : (10 : ℚ) ^ places ≤ 10 ^ 15 := pow_le_pow_right₀ (by norm_num) (by omega)
    have := mul_le_mul_of_nonneg_right scale unit_pos.le
    linarith
  · have scale : (10 : ℚ) ^ 16 ≤ 10 ^ places := pow_le_pow_right₀ (by norm_num) many
    have := mul_le_mul_of_nonneg_right scale unit_pos.le
    linarith

/-- A decimal is read as a rank that is rounded to the decimal again, or else to one so close to the
rank that it is read as the same one. -/
theorem rank_significant_of_rank (nonzero : magnitude.rank ≠ 0) {read : Magnitude}
    (same : read.rank = (significant places magnitude).rank) :
    (significant places read).rank = read.rank := by
  have value := value_significant places magnitude
  have value' := value_significant places read
  have nearest := (significant places magnitude).abs_valueAt_rank_sub_le magnitude.rank
  have most := (significant places magnitude).value_le_midpoint
  have close := abs_sub_roundedTo_le (countedPlaces places) read.value
  rw [← same, value] at nearest most
  rw [← value'] at close
  cases rank : read.rank with
  | zero =>
      apply rank_of_value_eq
      rw [value', Magnitude.value, rank, valueAt_zero, roundedTo_zero]
  | succ k =>
      rcases roundedTo_again (one_le_countedPlaces places) (Magnitude.value_pos nonzero)
        nearest with again | ⟨power, far⟩
      · rw [← rank, same]
        exact rank_congr (value'.trans (again.trans value.symm))
      · -- Far below a power of ten, half a unit is still less than half a gap on either side.
        have gap := gapAt_pos k
        rw [power, rank] at most far
        rw [Magnitude.value, rank] at close
        push_cast at most far
        have fine : lastUnit (countedPlaces places) (valueAt (k + 1)) < gapAt k := by
          rcases gapAt_succ k with even | ⟨wider, lowest⟩
          · linarith
          · rw [lowest] at most far ⊢
            have := unit_lt_half_gap (countedPlaces places) most (by linarith)
            linarith
        have step := valueAt_succ k
        rw [abs_le] at close
        exact rank_eq_succ (by linarith) (by linarith)

end Again

end Decimal

end Reckoner
