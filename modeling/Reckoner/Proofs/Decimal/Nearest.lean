import Mathlib.Tactic.FieldSimp
import Reckoner.Proofs.Decimal.Rounded
import Reckoner.Proofs.Decimal.Value

/-!
# A decimal is read as the nearest number

The ranks as points of the rational line.  A decimal is read as a rank whose point no other point is
nearer to, on the midpoint between two points as the even one.  Decimals of at most fifteen digits
lie too far apart for two of them to be read as one number, unless the number is very small.
-/

namespace Reckoner

/-- The value at which a rank stands. -/
def valueAt (rank : Nat) : ℚ := unitsAt rank / unitsPerOne

/-- The distance from a rank to the next one. -/
def gapAt (rank : Nat) : ℚ := 2 ^ shiftAt rank / unitsPerOne

/-- The exact value of a magnitude. -/
def Magnitude.value (magnitude : Magnitude) : ℚ := valueAt magnitude.rank

/-- The exact value of a finite number; the others have none. -/
def Binary64.value : Binary64 → ℚ
  | .finite negative magnitude => Decimal.withSign negative magnitude.value
  | _ => 0

@[simp] theorem Binary64.value_positive {magnitude : Magnitude} :
    (Binary64.finite false magnitude).value = magnitude.value := rfl

@[simp] theorem Binary64.value_negative {magnitude : Magnitude} :
    (Binary64.finite true magnitude).value = -magnitude.value := rfl

/-- The least number with the full number of binary digits. -/
def Binary64.leastNormal : ℚ := 2 ^ (-1022 : Int)

/-- Halfway from the greatest finite number, `2 ^ 1024 - 2 ^ 971`, to the next power of two. -/
def Binary64.overflowPoint : ℚ := 2 ^ 1024 - 2 ^ 970

section Points

variable {k l c : Nat}

theorem cast_unitsPerOne_pos : (0 : ℚ) < unitsPerOne := Nat.cast_pos.2 unitsPerOne_pos

theorem gapAt_pos (k : Nat) : 0 < gapAt k := div_pos (pow_pos (by norm_num) _) cast_unitsPerOne_pos

theorem valueAt_succ (k : Nat) : valueAt (k + 1) = valueAt k + gapAt k := by
  rw [valueAt, unitsAt_succ, valueAt, gapAt, ← add_div]
  push_cast
  rfl

theorem strictMono_valueAt : StrictMono valueAt := by
  refine strictMono_nat_of_lt_succ fun k => ?_
  rw [valueAt_succ]
  exact lt_add_of_pos_right _ (gapAt_pos k)

theorem valueAt_zero : valueAt 0 = 0 := by
  rw [valueAt, unitsAt, Nat.zero_sub, Nat.zero_mul, Nat.cast_zero, zero_div]

theorem Magnitude.value_eq_div (magnitude : Magnitude) :
    magnitude.value = magnitude.units / unitsPerOne := rfl

theorem Magnitude.dvd_units_iff {m : Magnitude} :
    unitsPerOne ∣ m.units ↔ ∃ n : Nat, m.value = n := by
  have value (n : Nat) : m.value = n ↔ m.units = unitsPerOne * n := by
    rw [m.value_eq_div, div_eq_iff cast_unitsPerOne_pos.ne', mul_comm]
    exact_mod_cast Iff.rfl
  simp only [value]
  exact Iff.rfl

theorem Magnitude.value_nonneg (magnitude : Magnitude) : 0 ≤ magnitude.value :=
  valueAt_zero ▸ strictMono_valueAt.monotone (Nat.zero_le magnitude.rank)

theorem Magnitude.value_pos {magnitude : Magnitude} (nonzero : magnitude.rank ≠ 0) :
    0 < magnitude.value := by
  rw [← valueAt_zero, value]
  exact strictMono_valueAt (Nat.pos_of_ne_zero nonzero)

/-- A rank beyond `c` is at least `c` gaps away from zero, for `c` up to a binade. -/
theorem mul_gapAt_le (reached : c ≤ k) (room : c ≤ binade) : c * gapAt k ≤ valueAt k := by
  obtain ⟨s, j, rfl, doubled, within⟩ := exists_steps k
  obtain ⟨shift, units⟩ := unitsAt_add doubled within
  have steps : c ≤ j := by
    rcases doubled with rfl | wide
    · simpa using reached
    · exact room.trans wide
  rw [gapAt, valueAt, shift, units, ← mul_div_assoc]
  refine div_le_div_of_nonneg_right ?_ cast_unitsPerOne_pos.le
  push_cast
  exact mul_le_mul_of_nonneg_right (Nat.cast_le.2 steps) (pow_nonneg (by norm_num) _)

/-- A rank stands a whole number of its gaps away from zero. -/
theorem exists_valueAt_eq (k : Nat) : ∃ c : Nat, valueAt k = c * gapAt k := by
  refine ⟨k - shiftAt k * binade, ?_⟩
  rw [valueAt, unitsAt, gapAt]
  push_cast
  rw [mul_div_assoc]

/-- The gap below a rank is that above it, except that at a power of two it is half as wide. -/
theorem gapAt_succ (k : Nat) : gapAt (k + 1) = gapAt k ∨
    gapAt (k + 1) = 2 * gapAt k ∧ valueAt (k + 1) = binade * gapAt (k + 1) := by
  obtain ⟨s, j, rfl, doubled, within⟩ := exists_steps k
  have shift := (unitsAt_add doubled within).1
  rcases Nat.lt_or_ge (j + 1) (2 * binade) with inner | last
  · left
    have next := (unitsAt_add (s := s) (doubled.imp_right Nat.le_succ_of_le) inner).1
    rw [gapAt, gapAt, shift, Nat.add_assoc, next]
  · right
    have carried : s * binade + j + 1 = (s + 1) * binade + binade := by
      rw [Nat.succ_mul]
      omega
    obtain ⟨shift', units'⟩ := unitsAt_add (s := s + 1) (.inr (Nat.le_refl binade)) (by decide)
    rw [carried, valueAt, gapAt, gapAt, shift, shift', units', pow_succ]
    push_cast
    exact ⟨by ring, by ring⟩

/-- A rank stands at most two binades of the gaps below it away from zero. -/
theorem valueAt_succ_le (k : Nat) : valueAt (k + 1) ≤ 2 * binade * gapAt k := by
  obtain ⟨s, j, rfl, doubled, within⟩ := exists_steps k
  obtain ⟨shift, units⟩ := unitsAt_add doubled within
  have value : valueAt (s * binade + j) = j * gapAt (s * binade + j) := by
    rw [valueAt, gapAt, shift, units, ← mul_div_assoc]
    push_cast
    rfl
  have steps : (j + 1 : ℚ) ≤ 2 * binade := by exact_mod_cast within
  rw [valueAt_succ, value, ← add_one_mul]
  exact mul_le_mul_of_nonneg_right steps (gapAt_pos _).le

theorem gapAt_le_gapAt_succ (k : Nat) : gapAt k ≤ gapAt (k + 1) := by
  have positive := gapAt_pos k
  rcases gapAt_succ k with same | ⟨wider, -⟩ <;> linarith

end Points

namespace Decimal

variable {d a b : Decimal} {k : Nat}

/-- A decimal is read as more than a rank when it is beyond the midpoint above the rank, or on the
midpoint if the rank is odd. -/
theorem lt_rank_iff (d : Decimal) (k : Nat) :
    k < d.rank ↔ valueAt k + gapAt k / 2 < d.value ∨
      valueAt k + gapAt k / 2 = d.value ∧ k % 2 = 1 := by
  have denominator : (0 : ℚ) < d.denominator := Nat.cast_pos.2 d.denominator_pos
  have unit := cast_unitsPerOne_pos
  rw [rank, lt_nearestRank_iff d.denominator_pos, value_eq_div, valueAt, gapAt, unitsAt_succ]
  generalize unitsPerOne = u at unit ⊢
  have midpoint : (unitsAt k / u + 2 ^ shiftAt k / u / 2 : ℚ) =
      (unitsAt k + (unitsAt k + 2 ^ shiftAt k) : Nat) / (2 * u) := by
    push_cast
    field_simp
    ring
  have double : (d.numerator : ℚ) * (2 * u) = (2 * (d.numerator * u) : Nat) := by
    push_cast
    ring
  rw [midpoint, div_lt_div_iff₀ (by positivity) denominator,
    div_eq_div_iff (by positivity) denominator.ne', double]
  norm_cast

/-- A decimal is at most the midpoint above its rank. -/
theorem value_le_midpoint (d : Decimal) : d.value ≤ valueAt d.rank + gapAt d.rank / 2 := by
  by_contra above
  exact absurd ((d.lt_rank_iff d.rank).2 (.inl (not_le.1 above))) (Nat.lt_irrefl _)

/-- A decimal is at least the midpoint below its rank. -/
theorem midpoint_le_value (h : k < d.rank) : valueAt k + gapAt k / 2 ≤ d.value := by
  rcases (d.lt_rank_iff k).1 h with beyond | ⟨tie, -⟩
  · exact beyond.le
  · exact tie.le

theorem rank_le_of_value_le (h : d.value ≤ valueAt k) : d.rank ≤ k := by
  by_contra above
  have midpoint := midpoint_le_value (not_le.1 above)
  have gap := gapAt_pos k
  linarith

theorem le_rank_of_le_value (h : valueAt k ≤ d.value) : k ≤ d.rank := by
  by_contra below
  have next := strictMono_valueAt.monotone (Nat.succ_le_of_lt (not_le.1 below))
  rw [Nat.succ_eq_add_one, valueAt_succ] at next
  have midpoint := d.value_le_midpoint
  have gap := gapAt_pos d.rank
  linarith

/-- A decimal at the point of a rank has this rank. -/
theorem rank_of_value_eq (h : d.value = valueAt k) : d.rank = k :=
  Nat.le_antisymm (rank_le_of_value_le h.le) (le_rank_of_le_value h.ge)

/-- A decimal between the point of a rank and a decimal with this rank has this rank. -/
theorem rank_eq_of_between (same : a.rank = k)
    (between : a.value ≤ d.value ∧ d.value ≤ valueAt k ∨
      valueAt k ≤ d.value ∧ d.value ≤ a.value) : d.rank = k := by
  rcases between with ⟨beyond, within⟩ | ⟨beyond, within⟩
  · exact Nat.le_antisymm (rank_le_of_value_le within) (same ▸ rank_le_rank beyond)
  · exact Nat.le_antisymm (same ▸ rank_le_rank within) (le_rank_of_le_value beyond)

/-- A decimal between the midpoints on both sides of a rank has this rank. -/
theorem rank_eq_succ (below : valueAt k + gapAt k / 2 < d.value)
    (above : d.value < valueAt (k + 1) + gapAt (k + 1) / 2) : d.rank = k + 1 := by
  refine Nat.le_antisymm ?_ ((d.lt_rank_iff k).2 (.inl below))
  by_contra greater
  exact absurd (midpoint_le_value (not_le.1 greater)) (not_le.2 above)

theorem value_nonneg (d : Decimal) : 0 ≤ d.value :=
  mul_nonneg (Nat.cast_nonneg _) (zpow_nonneg (by norm_num) _)

/-- No point is nearer to a decimal than the point of its rank. -/
theorem abs_valueAt_rank_sub_le (d : Decimal) (k : Nat) :
    |valueAt d.rank - d.value| ≤ |valueAt k - d.value| := by
  rcases Nat.lt_trichotomy k d.rank with below | same | above
  · obtain ⟨j, next⟩ := Nat.exists_eq_succ_of_ne_zero (Nat.ne_zero_of_lt below)
    rw [Nat.succ_eq_add_one] at next
    have midpoint := midpoint_le_value (d := d) (k := j) (by omega)
    have order := strictMono_valueAt.monotone (show k ≤ j by omega)
    have gap := gapAt_pos j
    rw [next, valueAt_succ, abs_sub_comm (valueAt k),
      abs_of_nonneg (show 0 ≤ d.value - valueAt k by linarith), abs_le]
    constructor <;> linarith
  · rw [same]
  · have midpoint := d.value_le_midpoint
    have order := strictMono_valueAt.monotone (Nat.succ_le_of_lt above)
    have gap := gapAt_pos d.rank
    rw [Nat.succ_eq_add_one, valueAt_succ] at order
    rw [abs_of_nonneg (show 0 ≤ valueAt k - d.value by linarith), abs_le]
    constructor <;> linarith

/-- If the point of another rank is as near to a decimal, the decimal has an even rank. -/
theorem rank_even_of_tie (tie : |valueAt k - d.value| = |valueAt d.rank - d.value|)
    (other : k ≠ d.rank) : d.rank % 2 = 0 := by
  rcases Nat.lt_or_gt_of_ne other with below | above
  · obtain ⟨j, next⟩ := Nat.exists_eq_succ_of_ne_zero (Nat.ne_zero_of_lt below)
    rw [Nat.succ_eq_add_one] at next
    have order := strictMono_valueAt.monotone (show k ≤ j by omega)
    have gap := gapAt_pos j
    rw [next, valueAt_succ] at tie
    rcases (d.lt_rank_iff j).1 (by omega) with beyond | ⟨-, odd⟩
    · rw [abs_of_nonpos (show valueAt k - d.value ≤ 0 by linarith)] at tie
      rcases abs_cases (valueAt j + gapAt j - d.value) with ⟨same, -⟩ | ⟨same, -⟩ <;> linarith
    · omega
  · have order := strictMono_valueAt.monotone (Nat.succ_le_of_lt above)
    have gap := gapAt_pos d.rank
    rw [Nat.succ_eq_add_one, valueAt_succ] at order
    by_contra odd
    have inside : d.value < valueAt d.rank + gapAt d.rank / 2 := by
      refine d.value_le_midpoint.lt_of_ne fun same => ?_
      exact absurd ((d.lt_rank_iff d.rank).2 (.inr ⟨same.symm, by omega⟩)) (Nat.lt_irrefl _)
    rw [abs_of_nonneg (show 0 ≤ valueAt k - d.value by linarith)] at tie
    rcases abs_cases (valueAt d.rank - d.value) with ⟨same, -⟩ | ⟨same, -⟩ <;> linarith

/-- A decimal is at most half a gap away from the point of its rank. -/
theorem abs_valueAt_rank_sub_le_half (d : Decimal) :
    |valueAt d.rank - d.value| ≤ gapAt d.rank / 2 := by
  rw [abs_le]
  constructor
  · linarith [d.value_le_midpoint]
  · cases rank : d.rank with
    | zero =>
        rw [valueAt_zero]
        linarith [d.value_nonneg, gapAt_pos 0]
    | succ j =>
        rw [valueAt_succ]
        linarith [midpoint_le_value (d := d) (k := j) (by omega), gapAt_le_gapAt_succ j]

/-- A decimal that is a multiple of the gap at its rank is at the point of this rank. -/
theorem valueAt_rank_of_eq_mul {c : Int} (multiple : d.value = c * gapAt d.rank) :
    valueAt d.rank = d.value := by
  obtain ⟨n, steps⟩ := exists_valueAt_eq d.rank
  have near := d.abs_valueAt_rank_sub_le_half
  rw [multiple, steps] at near ⊢
  have equal : (n : Int) = c := by
    apply eq_of_abs_mul_sub_lt (u := gapAt d.rank)
    rw [Int.cast_natCast]
    exact near.trans_lt (half_lt_self (gapAt_pos d.rank))
  rw [← equal, Int.cast_natCast]

section Range

open Binary64 (leastNormal overflowPoint)

theorem valueAt_binade : valueAt binade = leastNormal := by
  have units : 2 ^ 1022 * unitsAt binade = unitsPerOne := by decide +kernel
  rw [valueAt, leastNormal, div_eq_iff cast_unitsPerOne_pos.ne', ← units, Nat.cast_mul,
    Nat.cast_pow, Nat.cast_ofNat, zpow_neg, zpow_ofNat, inv_mul_cancel_left₀ (by positivity)]

theorem overflowPoint_pos : 0 < overflowPoint := by
  rw [overflowPoint, sub_pos]
  exact pow_lt_pow_right₀ (by norm_num) (by decide)

theorem overflowPoint_eq :
    overflowPoint = valueAt (magnitudeCount - 1) + gapAt (magnitudeCount - 1) / 2 := by
  -- the powers stay variables, which are cheaper to divide than the numbers
  have divide (last gap unit power half : ℚ) (positive : 0 < unit)
      (sum : last + (last + gap) + 2 * half * unit = 2 * power * unit) :
      power - half = last / unit + gap / unit / 2 := by
    field_simp
    linarith
  have sum : unitsAt (magnitudeCount - 1) + (unitsAt (magnitudeCount - 1) +
      2 ^ shiftAt (magnitudeCount - 1)) + 2 * 2 ^ 970 * unitsPerOne =
        2 * 2 ^ 1024 * unitsPerOne := by
    decide +kernel
  have cast := congrArg (Nat.cast : Nat → ℚ) sum
  simp only [Nat.cast_add, Nat.cast_mul, Nat.cast_pow, Nat.cast_ofNat] at cast
  exact divide _ _ _ _ _ cast_unitsPerOne_pos cast

/-- A decimal is beyond all finite numbers from the overflow point on, since the greatest rank is
odd. -/
theorem magnitudeCount_le_rank_iff : magnitudeCount ≤ d.rank ↔ overflowPoint ≤ d.value := by
  have odd : (magnitudeCount - 1) % 2 = 1 := by decide
  have last : magnitudeCount ≤ d.rank ↔ magnitudeCount - 1 < d.rank := by
    rw [← Nat.succ_le_iff]
    rfl
  rw [last, lt_rank_iff, ← overflowPoint_eq, and_iff_left odd, le_iff_lt_or_eq]

theorem pow_le_half_gap : (10 : ℚ) ^ (-400 : Int) ≤ valueAt 0 + gapAt 0 / 2 := by
  have scaled : 1 * (unitsPerOne * 2) ≤ 2 ^ shiftAt 0 * 10 ^ 400 := by decide +kernel
  rw [valueAt_zero, zero_add, gapAt, div_div, zpow_neg, inv_eq_one_div,
    div_le_div_iff₀ (zpow_pos (by norm_num) _) (mul_pos cast_unitsPerOne_pos (by norm_num))]
  exact_mod_cast scaled

theorem valueAt_magnitudeCount_le : valueAt magnitudeCount ≤ 10 ^ (401 : Int) := by
  have scaled : unitsAt magnitudeCount ≤ 10 ^ 401 * unitsPerOne := by decide +kernel
  rw [valueAt, div_le_iff₀ cast_unitsPerOne_pos]
  exact_mod_cast scaled

/-- What is far out of the range is answered without its rank, but like its rank. -/
theorem toBinary64_eq (d : Decimal) (negative : Bool) :
    d.toBinary64 negative = .ofRank negative d.rank := by
  by_cases zero : d.coefficient = 0
  · have rank : d.rank = 0 :=
      rank_of_value_eq ((coefficient_eq_zero_iff.1 zero).trans valueAt_zero.symm)
    rw [toBinary64, if_pos (.inl zero), rank]
    rfl
  · rcases lt_or_ge d.leadingExponent (-400) with low | least
    · have below : d.value < 10 ^ (-400 : Int) :=
        lt_of_lt_of_le d.value_lt_pow (zpow_le_zpow_right₀ (by norm_num) low)
      have rank : d.rank = 0 := by
        by_contra positive
        exact absurd (midpoint_le_value (Nat.pos_of_ne_zero positive))
          (not_le.2 (below.trans_le pow_le_half_gap))
      rw [toBinary64, if_pos (.inr low), rank]
      rfl
    · rcases lt_or_ge 400 d.leadingExponent with high | most
      · have above : valueAt magnitudeCount ≤ d.value :=
          valueAt_magnitudeCount_le.trans ((le_leadingExponent_iff zero).1 high)
        rw [toBinary64, if_neg (by omega), if_pos high, Binary64.ofRank,
          dif_neg (not_lt.2 (le_rank_of_le_value above))]
      · rw [toBinary64, if_neg (by omega), if_neg (by omega)]
        rfl

/-- Decimals of one value are read as one number. -/
theorem toBinary64_congr {negative : Bool} (h : a.value = b.value) :
    a.toBinary64 negative = b.toBinary64 negative := by
  rw [toBinary64_eq, toBinary64_eq, rank_congr h]

/-- A decimal of the rank of a magnitude is read as the magnitude. -/
theorem toBinary64_eq_finite {magnitude : Magnitude} (same : d.rank = magnitude.rank)
    (negative : Bool) : d.toBinary64 negative = .finite negative magnitude := by
  rw [toBinary64_eq, same]
  exact dif_pos magnitude.rank_lt

end Range

section Grid

/-- A decimal is a multiple of every power of ten up to that of its last digit. -/
theorem exists_eq_mul_pow {e : Int} (h : e ≤ d.exponent) : ∃ n : Int, d.value = n * 10 ^ e := by
  obtain ⟨k, above⟩ := Int.le.dest h
  refine ⟨d.coefficient * 10 ^ k, ?_⟩
  rw [value, ← above, zpow_add₀ (by norm_num), zpow_natCast]
  push_cast
  ring

/-- Decimals with at most `10 ^ 15` as their coefficient that are read as the same rank have the same
value, from half the least normal number on. -/
theorem value_eq_of_rank_eq (same : a.rank = b.rank) (short : a.coefficient ≤ 10 ^ 15)
    (short' : b.coefficient ≤ 10 ^ 15) (reached : 2 ^ 51 ≤ a.rank) : a.value = b.value := by
  wlog order : a.exponent ≤ b.exponent generalizing a b
  · exact (this same.symm short' short (same ▸ reached) (not_le.1 order).le).symm
  obtain ⟨m, multiple⟩ := exists_eq_mul_pow (d := a) le_rfl
  obtain ⟨n, multiple'⟩ := exists_eq_mul_pow order
  have near := a.abs_valueAt_rank_sub_le_half
  have near' := b.abs_valueAt_rank_sub_le_half
  rw [← same] at near'
  have far := mul_gapAt_le reached (by decide)
  have most : a.value ≤ 10 ^ 15 * 10 ^ a.exponent :=
    mul_le_mul_of_nonneg_right (by exact_mod_cast short) (zpow_nonneg (by norm_num) _)
  push_cast at far
  rw [multiple, multiple']
  congr 2
  apply eq_of_abs_mul_sub_lt (u := (10 : ℚ) ^ a.exponent)
  rw [← multiple, ← multiple']
  have gap := gapAt_pos a.rank
  rw [abs_le] at near near'
  rw [abs_lt]
  constructor <;> linarith

end Grid

end Decimal

end Reckoner
