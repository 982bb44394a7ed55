import Mathlib.Algebra.Group.Int.Even
import Mathlib.Algebra.Order.Ring.Abs
import Mathlib.Data.Int.Log
import Mathlib.Data.Rat.Floor
import Mathlib.Tactic.Linarith
import Mathlib.Tactic.NormNum
import Mathlib.Tactic.Ring

/-!
# Rounding rational numbers to significant digits

What it means to round a number once to some significant digits: the unit of the last digit is a
power of ten that the leading power of ten of the number fixes, and a tie goes to the even multiple
of the unit.

## Main results

A number that is nearer to a rounded number than the number it was rounded from is rounded to the
same number, except below a power of ten, where the unit is smaller.
-/

namespace Reckoner

section Integers

variable {x y : ℚ} {m n : ℤ}

/-- The integer nearest to a number, a tie going to the even one. -/
def halfEven (x : ℚ) : ℤ :=
  if x - ⌊x⌋ < 1 / 2 ∨ x - ⌊x⌋ = 1 / 2 ∧ Even ⌊x⌋ then ⌊x⌋ else ⌊x⌋ + 1

/-- Multiples of a number that are less than this number apart are the same. -/
theorem eq_of_abs_mul_sub_lt {u : ℚ} (close : |m * u - n * u| < u) : m = n := by
  have positive : 0 < u := lt_of_le_of_lt (abs_nonneg _) close
  rw [← sub_mul, abs_mul, abs_of_pos positive, mul_lt_iff_lt_one_left positive] at close
  have apart : |m - n| < 1 := by exact_mod_cast close
  rwa [Int.abs_lt_one_iff, sub_eq_zero] at apart

theorem halfEven_near (x : ℚ) :
    |x - halfEven x| ≤ 1 / 2 ∧ (|x - halfEven x| = 1 / 2 → Even (halfEven x)) := by
  have least := Int.floor_le x
  have most := Int.lt_floor_add_one x
  unfold halfEven
  split
  case isTrue low =>
    rw [abs_of_nonneg (by linarith)]
    rcases low with near | ⟨tie, even⟩
    · exact ⟨near.le, fun tie => absurd tie near.ne⟩
    · exact ⟨tie.le, fun _ => even⟩
  case isFalse high =>
    rw [not_or, not_lt, not_and, Int.not_even_iff_odd] at high
    push_cast
    rw [abs_of_nonpos (by linarith)]
    exact ⟨by linarith, fun tie => (high.2 (by linarith)).add_one⟩

/-- A number is rounded to an integer at most one half away, which is even if it is that far. -/
theorem halfEven_eq_iff : halfEven x = n ↔ |x - n| ≤ 1 / 2 ∧ (|x - n| = 1 / 2 → Even n) := by
  refine ⟨fun same => same ▸ halfEven_near x, fun ⟨near, tie⟩ => ?_⟩
  obtain ⟨near', tie'⟩ := halfEven_near x
  generalize halfEven x = m at near' tie'
  by_contra differ
  -- different integers that close are one apart with the number halfway, and only one is even
  have apart : 1 ≤ |m - n| := Int.one_le_abs (sub_ne_zero.2 differ)
  have apart' : (1 : ℚ) ≤ |(m : ℚ) - n| := by exact_mod_cast apart
  have triangle := abs_sub_le (m : ℚ) x n
  rw [abs_sub_comm (m : ℚ) x] at triangle
  have even := tie (by linarith)
  have even' := tie' (by linarith)
  have adjacent : |(m : ℚ) - n| = 1 := by linarith
  have adjacent' : |m - n| = 1 := by exact_mod_cast adjacent
  obtain ⟨k, difference⟩ := even'.sub even
  rcases (abs_eq Int.one_nonneg).1 adjacent' with one | one <;> omega

/-- A number nearer to the integer that another one is rounded to is rounded to it too. -/
theorem halfEven_of_nearer (h : |y - halfEven x| ≤ |x - halfEven x|) :
    halfEven y = halfEven x := by
  obtain ⟨near, tie⟩ := halfEven_near x
  exact halfEven_eq_iff.2 ⟨h.trans near, fun far => tie (le_antisymm near (far ▸ h))⟩

theorem halfEven_neg (x : ℚ) : halfEven (-x) = -halfEven x := by
  have mirrored : |-x - (-halfEven x : ℤ)| = |x - halfEven x| := by
    rw [Int.cast_neg, neg_sub_neg, abs_sub_comm]
  rw [halfEven_eq_iff, mirrored, even_neg]
  exact halfEven_near x

theorem le_halfEven (h : n ≤ x) : n ≤ halfEven x := by
  have near := (abs_le.1 (halfEven_near x).1).2
  have above : (n : ℚ) < (halfEven x + 1 : ℤ) := by
    push_cast
    linarith
  exact Int.lt_add_one_iff.1 (Int.cast_lt.1 above)

theorem halfEven_le (h : x ≤ n) : halfEven x ≤ n := by
  have near := (abs_le.1 (halfEven_near x).1).1
  have below : (halfEven x : ℚ) < (n + 1 : ℤ) := by
    push_cast
    linarith
  exact Int.lt_add_one_iff.1 (Int.cast_lt.1 below)

/-- A greater number is not rounded to a smaller integer. -/
theorem halfEven_mono (order : x ≤ y) : halfEven x ≤ halfEven y := by
  obtain ⟨near, tie⟩ := halfEven_near x
  obtain ⟨near', tie'⟩ := halfEven_near y
  by_contra smaller
  have step : (halfEven y + 1 : ℚ) ≤ halfEven x := by exact_mod_cast not_le.1 smaller
  -- both numbers are then the point halfway between two integers, of which one is even
  have low := (abs_le.1 near).1
  have high := (abs_le.1 near').2
  have even := tie (by rw [abs_of_nonpos (by linarith)]; linarith)
  have even' := tie' (by rw [abs_of_nonneg (by linarith)]; linarith)
  have adjacent : halfEven x = halfEven y + 1 := by
    have : (halfEven x : ℚ) = halfEven y + 1 := by linarith
    exact_mod_cast this
  rw [adjacent, Int.even_add_one] at even
  exact even even'

variable {u : ℚ} (positive : 0 < u)
include positive

/-- A distance from a multiple of a number, counted in this number. -/
theorem abs_div_sub (x : ℚ) (n : ℤ) : |x / u - n| = |x - n * u| / u := by
  rw [← mul_div_cancel_right₀ (n : ℚ) positive.ne', ← sub_div, abs_div, abs_of_pos positive,
    mul_div_cancel_right₀ _ positive.ne']

theorem halfEven_div_eq_iff :
    halfEven (x / u) = n ↔ |x - n * u| ≤ u / 2 ∧ (|x - n * u| = u / 2 → Even n) := by
  rw [halfEven_eq_iff, abs_div_sub positive, div_le_iff₀ positive, div_eq_iff positive.ne',
    one_div_mul_eq_div]

end Integers

section Digits

variable {places : ℕ} {x y : ℚ} {e : ℤ}

/-- The unit of the last of `places` significant digits of a number. -/
def lastUnit (places : ℕ) (x : ℚ) : ℚ := 10 ^ (Int.log 10 |x| - (places - 1))

/-- A number rounded to `places` significant digits, a tie going to the even digit. -/
def roundedTo (places : ℕ) (x : ℚ) : ℚ := halfEven (x / lastUnit places x) * lastUnit places x

theorem lastUnit_pos (places : ℕ) (x : ℚ) : 0 < lastUnit places x := zpow_pos (by norm_num) _

theorem lastUnit_neg : lastUnit places (-x) = lastUnit places x := by
  rw [lastUnit, lastUnit, abs_neg]

theorem roundedTo_neg : roundedTo places (-x) = -roundedTo places x := by
  rw [roundedTo, lastUnit_neg, neg_div, halfEven_neg, Int.cast_neg, neg_mul, roundedTo]

theorem roundedTo_zero : roundedTo places 0 = 0 := by
  have none : halfEven 0 = 0 := halfEven_eq_iff.2 (by norm_num)
  rw [roundedTo, zero_div, none, Int.cast_zero, zero_mul]

/-- The leading power of ten of a number is the greatest one that it reaches. -/
theorem log_eq_iff (positive : 0 < x) :
    Int.log 10 x = e ↔ (10 : ℚ) ^ e ≤ x ∧ x < (10 : ℚ) ^ (e + 1) := by
  have least := Int.zpow_le_iff_le_log (x := e) (by decide : 1 < 10) positive
  have most := Int.lt_zpow_iff_log_lt (x := e + 1) (by decide : 1 < 10) positive
  rw [Nat.cast_ofNat] at least most
  rw [least, most]
  omega

/-- The unit in terms of the leading power of ten. -/
theorem lastUnit_eq (positive : 0 < x) (leading : Int.log 10 x = e) :
    lastUnit places x = 10 ^ (e - (places - 1)) := by
  rw [lastUnit, abs_of_pos positive, leading]

/-- A number is rounded to a multiple of the unit at most half a unit away, which is even if it is
that far. -/
theorem roundedTo_eq {n : ℤ} (near : |x - n * lastUnit places x| ≤ lastUnit places x / 2)
    (tie : |x - n * lastUnit places x| = lastUnit places x / 2 → Even n) :
    roundedTo places x = n * lastUnit places x := by
  rw [roundedTo, (halfEven_div_eq_iff (lastUnit_pos places x)).2 ⟨near, tie⟩]

theorem abs_sub_roundedTo_le (places : ℕ) (x : ℚ) :
    |x - roundedTo places x| ≤ lastUnit places x / 2 :=
  ((halfEven_div_eq_iff (lastUnit_pos places x)).1 rfl).1

theorem le_roundedTo {n : ℤ} (h : n * lastUnit places x ≤ x) :
    n * lastUnit places x ≤ roundedTo places x :=
  have unit := lastUnit_pos places x
  mul_le_mul_of_nonneg_right (Int.cast_le.2 (le_halfEven ((le_div_iff₀ unit).2 h))) unit.le

theorem roundedTo_le {n : ℤ} (h : x ≤ n * lastUnit places x) :
    roundedTo places x ≤ n * lastUnit places x :=
  have unit := lastUnit_pos places x
  mul_le_mul_of_nonneg_right (Int.cast_le.2 (halfEven_le ((div_le_iff₀ unit).2 h))) unit.le

/-- A number nearer to a rounded one, with the same unit, is rounded to it too. -/
theorem roundedTo_of_nearer (same : lastUnit places y = lastUnit places x)
    (h : |y - roundedTo places x| ≤ |x - roundedTo places x|) :
    roundedTo places y = roundedTo places x := by
  have positive := lastUnit_pos places x
  have nearer : |y / lastUnit places x - halfEven (x / lastUnit places x)| ≤
      |x / lastUnit places x - halfEven (x / lastUnit places x)| := by
    rw [abs_div_sub positive, abs_div_sub positive]
    exact div_le_div_of_nonneg_right h positive.le
  rw [roundedTo, same, halfEven_of_nearer nearer, roundedTo]

/-- A power of ten is a multiple of every smaller one. -/
theorem pow_eq_mul_pow (j : ℕ) (e : ℤ) : (10 : ℚ) ^ e = (10 ^ j : ℤ) * 10 ^ (e - j) := by
  rw [Int.cast_pow, Int.cast_ofNat, ← zpow_natCast, ← zpow_add₀ (by norm_num)]
  congr 1
  omega

section Leading

variable (least : 1 ≤ places) (positive : 0 < x) (leading : Int.log 10 x = e)
include least positive leading

omit least in
theorem pow_succ_eq_mul_lastUnit (places : ℕ) :
    (10 : ℚ) ^ (e + 1) = (10 ^ places : ℤ) * lastUnit places x := by
  rw [lastUnit_eq positive leading, pow_eq_mul_pow places (e + 1)]
  congr 2
  omega

/-- The leading power of ten counts so many units that it has `places` digits. -/
theorem pow_eq_mul_lastUnit : (10 : ℚ) ^ e = (10 ^ (places - 1) : ℤ) * lastUnit places x := by
  rw [lastUnit_eq positive leading, pow_eq_mul_pow (places - 1) e, Nat.cast_sub least, Nat.cast_one]

/-- Rounding keeps a number between its powers of ten, or reaches the greater one. -/
theorem roundedTo_mem : (10 : ℚ) ^ e ≤ roundedTo places x ∧ roundedTo places x ≤ 10 ^ (e + 1) := by
  obtain ⟨reached, below⟩ := (log_eq_iff positive).1 leading
  rw [pow_succ_eq_mul_lastUnit positive leading places] at below ⊢
  rw [pow_eq_mul_lastUnit least positive leading] at reached ⊢
  exact ⟨le_roundedTo reached, roundedTo_le below.le⟩

omit leading in
/-- A greater number is not rounded to a smaller one. -/
theorem roundedTo_mono (order : x ≤ y) : roundedTo places x ≤ roundedTo places y := by
  have positive' := positive.trans_le order
  rcases (Int.log_mono_right (b := 10) positive order).eq_or_lt with same | below
  · have unit : lastUnit places y = lastUnit places x := by
      rw [lastUnit_eq positive' rfl, lastUnit_eq positive same]
    have counted := div_le_div_of_nonneg_right order (lastUnit_pos places x).le
    rw [roundedTo, roundedTo, unit]
    exact mul_le_mul_of_nonneg_right (Int.cast_le.2 (halfEven_mono counted)) (lastUnit_pos _ _).le
  · -- A power of ten lies between the rounded numbers.
    calc roundedTo places x
      _ ≤ 10 ^ (Int.log 10 x + 1) := (roundedTo_mem least positive rfl).2
      _ ≤ 10 ^ Int.log 10 y := zpow_le_zpow_right₀ (by norm_num) below
      _ ≤ roundedTo places y := (roundedTo_mem least positive' rfl).1

/-- The unit is at most the leading power of ten. -/
theorem lastUnit_le : lastUnit places x ≤ 10 ^ e := by
  rw [lastUnit_eq positive leading]
  exact zpow_le_zpow_right₀ (by norm_num) (by omega)

/-- Less than half a unit above its leading power of ten, a number is rounded to the power. -/
theorem roundedTo_eq_pow (close : x - 10 ^ e < lastUnit places x / 2) :
    roundedTo places x = 10 ^ e := by
  have reached := ((log_eq_iff positive).1 leading).1
  rw [pow_eq_mul_lastUnit least positive leading] at close reached ⊢
  have far : |x - (10 ^ (places - 1) : ℤ) * lastUnit places x| < lastUnit places x / 2 := by
    rwa [abs_of_nonneg (by linarith)]
  exact roundedTo_eq far.le fun tie => absurd tie far.ne

/-- At most half a unit below the next power of ten, a number is rounded to that power, which is an
even multiple of the unit. -/
theorem roundedTo_eq_pow_succ (close : 10 ^ (e + 1) - x ≤ lastUnit places x / 2) :
    roundedTo places x = 10 ^ (e + 1) := by
  have below := ((log_eq_iff positive).1 leading).2
  rw [pow_succ_eq_mul_lastUnit positive leading places] at close below ⊢
  refine roundedTo_eq ?_ fun _ => Even.pow_of_ne_zero (by decide) (by omega)
  rw [abs_of_nonpos (by linarith)]
  linarith

section Neighbour

variable {r : ℚ} (near : |r - roundedTo places x| ≤ lastUnit places x / 2)
include near

/-- A number below the leading power of ten is half a unit away from the rounded number only if that
is the power. -/
theorem roundedTo_eq_pow_of_lt (below : r < 10 ^ e) : roundedTo places x = 10 ^ e := by
  have reached := (roundedTo_mem least positive leading).1
  have unit := lastUnit_pos places x
  obtain ⟨n, multiple⟩ : ∃ n : ℤ, roundedTo places x = n * lastUnit places x := ⟨_, rfl⟩
  rw [multiple] at near reached ⊢
  rw [pow_eq_mul_lastUnit least positive leading] at below reached ⊢
  congr 2
  apply eq_of_abs_mul_sub_lt (u := lastUnit places x)
  rw [abs_of_nonneg (by linarith)]
  linarith [(abs_le.1 near).1]

/-- A number that reaches the next power of ten is half a unit away from the rounded number only if
that is the power. -/
theorem roundedTo_eq_pow_of_le (above : 10 ^ (e + 1) ≤ r) : roundedTo places x = 10 ^ (e + 1) := by
  have most := (roundedTo_mem least positive leading).2
  have unit := lastUnit_pos places x
  obtain ⟨n, multiple⟩ : ∃ n : ℤ, roundedTo places x = n * lastUnit places x := ⟨_, rfl⟩
  rw [multiple] at near most ⊢
  rw [pow_succ_eq_mul_lastUnit positive leading places] at above most ⊢
  congr 2
  apply eq_of_abs_mul_sub_lt (u := lastUnit places x)
  rw [abs_of_nonpos (by linarith)]
  linarith [(abs_le.1 near).2]

end Neighbour

end Leading

/-- A number that is nearer to a rounded number than the number it was rounded from is rounded to it
too, except far enough below a power of ten, where the unit is smaller. -/
theorem roundedTo_again {r : ℚ} (least : 1 ≤ places) (positive : 0 < x)
    (h : |r - roundedTo places x| ≤ |x - roundedTo places x|) :
    roundedTo places r = roundedTo places x ∨
      roundedTo places x = (10 ^ places : ℤ) * lastUnit places r ∧
        lastUnit places r / 2 < roundedTo places x - r := by
  have near := h.trans (abs_sub_roundedTo_le places x)
  obtain ⟨e, leading⟩ : ∃ e, Int.log 10 x = e := ⟨_, rfl⟩
  have small := lastUnit_le least positive leading
  have step (k : ℤ) : (10 : ℚ) ^ (k + 1) = 10 * 10 ^ k := by
    rw [zpow_add_one₀ (by norm_num), mul_comm]
  have power := zpow_pos (by norm_num : (0 : ℚ) < 10) e
  rcases lt_or_ge r (10 ^ e) with below | reached
  · have same := roundedTo_eq_pow_of_lt least positive leading near below
    rw [same] at near ⊢
    have last := step (e - 1)
    rw [sub_add_cancel] at last
    have positive' : 0 < r := by linarith [(abs_le.1 near).1]
    have leading' : Int.log 10 r = e - 1 := by
      rw [log_eq_iff positive', sub_add_cancel]
      exact ⟨by linarith [(abs_le.1 near).1], below⟩
    by_cases far : lastUnit places r / 2 < 10 ^ e - r
    · have multiple := pow_succ_eq_mul_lastUnit positive' leading' places
      rw [sub_add_cancel] at multiple
      exact .inr ⟨multiple, far⟩
    · have again := roundedTo_eq_pow_succ least positive' leading'
      rw [sub_add_cancel] at again
      exact .inl (again (not_lt.1 far))
  · left
    have positive' : 0 < r := lt_of_lt_of_le power reached
    rcases lt_or_ge r (10 ^ (e + 1)) with within | above
    · have leading' : Int.log 10 r = e := (log_eq_iff positive').2 ⟨reached, within⟩
      refine roundedTo_of_nearer ?_ h
      rw [lastUnit_eq positive' leading', lastUnit_eq positive leading]
    · have same := roundedTo_eq_pow_of_le least positive leading near above
      rw [same] at near ⊢
      have next := step e
      have beyond := step (e + 1)
      have leading' : Int.log 10 r = e + 1 := by
        rw [log_eq_iff positive']
        exact ⟨above, by linarith [(abs_le.1 near).2]⟩
      have wider : lastUnit places r = 10 * lastUnit places x := by
        rw [lastUnit_eq positive' leading', lastUnit_eq positive leading, ← step]
        congr 1
        omega
      apply roundedTo_eq_pow least positive' leading'
      linarith [(abs_le.1 near).2, lastUnit_pos places x]

end Digits

end Reckoner
