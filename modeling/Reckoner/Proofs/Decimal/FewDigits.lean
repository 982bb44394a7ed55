import Reckoner.Proofs.Decimal.Written

/-!
# Decimals of few digits survive

A magnitude that a decimal of at most fifteen digits is read as shows this decimal again, as its
shortest one or as the integer that it is.

## Implementation notes

The shortest decimal is looked for among the two neighbours of the magnitude on the grid with so many
digits.  If any multiple of the step of that grid is read as the magnitude, one of the neighbours is,
since reading is monotone.  So a decimal that was rounded to some digits bounds the number of digits
of the shortest one, even if the magnitude lies beyond a power of ten.
-/

namespace Reckoner.Decimal

variable {magnitude read : Magnitude} {d : Decimal} {places : Nat}

section Grid

/-- The exponent of the grid of so many digits around a magnitude. -/
def gridExponent (places : Nat) (magnitude : Magnitude) : Int :=
  lastPlace places magnitude.units unitsPerOne

/-- A magnitude counted in the step of its grid, as a ratio. -/
def counted (places : Nat) (magnitude : Magnitude) : Nat × Nat :=
  inPowers (gridExponent places magnitude) magnitude.units unitsPerOne

theorem withPlaces?_eq (places : Nat) (magnitude : Magnitude) :
    withPlaces? magnitude places =
      (([roundHalfEven (counted places magnitude).1 (counted places magnitude).2,
        (counted places magnitude).1 / (counted places magnitude).2,
        (counted places magnitude).1 / (counted places magnitude).2 + 1].map
          (Decimal.mk · (gridExponent places magnitude))).find? (readsAs magnitude)) := rfl

theorem counted_pos (places : Nat) (magnitude : Magnitude) : 0 < (counted places magnitude).2 :=
  inPowers_pos _ _ unitsPerOne_pos

theorem readsAs_iff : readsAs magnitude d = true ↔ d.rank = magnitude.rank := beq_iff_eq

section Nonzero

variable (nonzero : magnitude.rank ≠ 0)
include nonzero

theorem pow_gridExponent (places : Nat) :
    (10 : ℚ) ^ gridExponent places magnitude = lastUnit places magnitude.value :=
  (lastUnit_div (Nat.pos_of_ne_zero (magnitude.units_eq_zero_iff.not.2 nonzero))
    unitsPerOne_pos).symm

theorem counted_div (places : Nat) :
    ((counted places magnitude).1 : ℚ) / (counted places magnitude).2 =
      magnitude.value / lastUnit places magnitude.value := by
  rw [counted, inPowers_div, pow_gridExponent nonzero]
  rfl

/-- A magnitude lies between the two multiples of the step that are looked at. -/
theorem neighbours (places : Nat) :
    ((counted places magnitude).1 / (counted places magnitude).2 : Nat) *
        lastUnit places magnitude.value ≤ magnitude.value ∧
      magnitude.value < ((counted places magnitude).1 / (counted places magnitude).2 + 1 : Nat) *
        lastUnit places magnitude.value := by
  have unit := lastUnit_pos places magnitude.value
  have divisor : (0 : ℚ) < (counted places magnitude).2 := Nat.cast_pos.2 (counted_pos _ _)
  rw [← le_div_iff₀ unit, ← div_lt_iff₀ unit, ← counted_div nonzero, le_div_iff₀ divisor,
    div_lt_iff₀ divisor]
  exact ⟨by exact_mod_cast Nat.div_mul_le_self _ _,
    by exact_mod_cast Nat.lt_mul_of_div_lt (Nat.lt_succ_self _) (counted_pos _ _)⟩

/-- If a multiple of the step is read as the magnitude, a decimal with so many digits is found. -/
theorem isSome_withPlaces? (same : d.rank = magnitude.rank) {c : Int}
    (multiple : d.value = c * lastUnit places magnitude.value) :
    (withPlaces? magnitude places).isSome = true := by
  obtain ⟨least, most⟩ := neighbours nonzero places
  have unit := lastUnit_pos places magnitude.value
  have value (k : Nat) : (⟨k, gridExponent places magnitude⟩ : Decimal).value =
      k * lastUnit places magnitude.value := by
    rw [Decimal.value, pow_gridExponent nonzero]
  rw [withPlaces?_eq, List.find?_isSome]
  generalize (counted places magnitude).1 / (counted places magnitude).2 = below at *
  rcases Int.lt_or_le below c with above | under
  · refine ⟨⟨below + 1, gridExponent places magnitude⟩, by simp,
      readsAs_iff.2 (rank_eq_of_between same (.inr ⟨most.le.trans (value _).ge, ?_⟩))⟩
    rw [value, multiple]
    exact mul_le_mul_of_nonneg_right (by exact_mod_cast above) unit.le
  · refine ⟨⟨below, gridExponent places magnitude⟩, by simp,
      readsAs_iff.2 (rank_eq_of_between same (.inl ⟨?_, (value _).le.trans least⟩))⟩
    rw [value, multiple]
    exact mul_le_mul_of_nonneg_right (by exact_mod_cast under) unit.le

theorem counted_lt (places : Nat) :
    (counted places magnitude).1 < 10 ^ places * (counted places magnitude).2 := by
  have divisor : (0 : ℚ) < (counted places magnitude).2 := Nat.cast_pos.2 (counted_pos _ _)
  have positive := Magnitude.value_pos nonzero
  have below := ((log_eq_iff positive).1 rfl).2
  rw [pow_succ_eq_mul_lastUnit positive rfl places, ← div_lt_iff₀ (lastUnit_pos _ _),
    ← counted_div nonzero, div_lt_iff₀ divisor] at below
  exact_mod_cast below

/-- A decimal that is found has at most so many digits, or is the next power of ten. -/
theorem coefficient_of_withPlaces? (found : withPlaces? magnitude places = some d) :
    d.coefficient ≤ 10 ^ places := by
  have small := counted_lt nonzero places
  have quotient := (Nat.div_lt_iff_lt_mul (counted_pos places magnitude)).2 small
  rw [withPlaces?_eq] at found
  obtain ⟨c, candidate, rfl⟩ := List.mem_map.1 (List.mem_of_find?_eq_some found)
  simp only [List.mem_cons, List.not_mem_nil, or_false] at candidate
  change c ≤ 10 ^ places
  rcases candidate with nearest | lower | upper
  · rw [nearest]
    exact roundHalfEven_le (counted_pos places magnitude) small.le
  · rw [lower]
    exact quotient.le
  · rw [upper]
    exact quotient

/-- The shortest decimal has at most as many digits as any decimal that is found. -/
theorem coefficient_shortest_le (least : 1 ≤ places) (most : places ≤ enoughPlaces)
    (found : (withPlaces? magnitude places).isSome = true) :
    (shortest magnitude).coefficient ≤ 10 ^ places := by
  have tried : places ∈ List.range' 1 enoughPlaces := List.mem_range'_1.2 ⟨least, by omega⟩
  rw [shortest, if_neg nonzero]
  cases first : (List.range' 1 enoughPlaces).findSome? (withPlaces? magnitude) with
  | none =>
      rw [List.findSome?_eq_none_iff.1 first places tried] at found
      cases found
  | some decimal =>
      obtain ⟨fewer, count, more, split, taken, failed⟩ := List.findSome?_eq_some_iff.1 first
      have sorted := List.pairwise_lt_range' (s := 1) (n := enoughPlaces)
      rw [split] at tried sorted
      have order : count ≤ places := by
        rcases List.mem_append.1 tried with before | behind
        · rw [failed places before] at found
          cases found
        · rcases List.mem_cons.1 behind with same | later
          · exact same.ge
          · exact (List.rel_of_pairwise_cons (List.pairwise_append.1 sorted).2.1 later).le
      exact (coefficient_of_withPlaces? nonzero taken).trans
        (Nat.pow_le_pow_right (by decide) order)

end Nonzero

end Grid

section Integers

/-- The place of `10 ^ 15` among the ranks. -/
theorem valueAt_pow : valueAt 0x430c6bf526340000 = 10 ^ 15 := by
  have units : unitsAt 0x430c6bf526340000 = 10 ^ 15 * unitsPerOne := by decide +kernel
  rw [valueAt, units, div_eq_iff cast_unitsPerOne_pos.ne']
  push_cast
  rfl

/-- A short decimal that is read as more than `10 ^ 15` ends in a zero. -/
theorem one_le_exponent (short : d.coefficient ≤ 10 ^ 15) (large : 10 ^ 15 < valueAt d.rank) :
    1 ≤ d.exponent := by
  by_contra fractional
  have coefficient : (d.coefficient : ℚ) ≤ 10 ^ 15 := by exact_mod_cast short
  have power : (10 : ℚ) ^ d.exponent ≤ 1 := zpow_le_one_of_nonpos₀ (by norm_num) (by omega)
  have most : d.value ≤ 10 ^ 15 * 1 :=
    mul_le_mul coefficient power (zpow_nonneg (by norm_num) _) (by norm_num)
  rw [mul_one, ← valueAt_pow] at most
  have := strictMono_valueAt.monotone (rank_le_of_value_le most)
  rw [valueAt_pow] at this
  linarith

/-- Below the end of the range, two is a multiple of the gap. -/
theorem exists_mul_gapAt_eq_two {k : Nat} (small : k < Binary64.endMagnitude.rank) :
    ∃ j : Nat, 2 ^ j * gapAt k = 2 := by
  have most : shiftAt k ≤ 1075 := (shiftAt_le_shiftAt small.le).trans (by decide)
  have total : 2 ^ (1075 - shiftAt k) * 2 ^ shiftAt k = 2 * unitsPerOne := by
    rw [← Nat.pow_add, Nat.sub_add_cancel most]
    decide +kernel
  refine ⟨1075 - shiftAt k, ?_⟩
  rw [gapAt, ← mul_div_assoc, div_eq_iff cast_unitsPerOne_pos.ne']
  exact_mod_cast total

end Integers

section Survival

variable (nonzero : magnitude.rank ≠ 0)
include nonzero

theorem coefficient_significant_le (places : Nat) :
    (significant places magnitude).coefficient ≤ 10 ^ countedPlaces places := by
  have small := counted_lt nonzero (countedPlaces places)
  rw [significant, if_neg nonzero, coefficient_ofRatio]
  rw [counted, gridExponent, countedPlaces] at small
  exact roundHalfEven_le (inPowers_pos _ _ unitsPerOne_pos) small.le

/-- Rounding keeps at least half of a magnitude. -/
theorem half_le_value_significant (places : Nat) :
    magnitude.value / 2 ≤ (significant places magnitude).value := by
  have positive := Magnitude.value_pos nonzero
  have least := one_le_countedPlaces places
  have near := abs_sub_roundedTo_le (countedPlaces places) magnitude.value
  have small := lastUnit_le least positive rfl
  have reached := ((log_eq_iff positive).1 rfl).1
  rw [value_significant]
  linarith [(abs_le.1 near).2]

/-- On the grid of the magnitude that a rounded decimal is read as, a decimal is found too. -/
theorem isSome_withPlaces?_of_significant (nonzero' : read.rank ≠ 0)
    (same : read.rank = (significant places magnitude).rank) :
    (withPlaces? read (countedPlaces places)).isSome = true := by
  have positive := Magnitude.value_pos nonzero
  have positive' := Magnitude.value_pos nonzero'
  have value := value_significant places magnitude
  have counted := one_le_countedPlaces places
  generalize countedPlaces places = p at value counted ⊢
  obtain ⟨e, leading⟩ : ∃ e, Int.log 10 magnitude.value = e := ⟨_, rfl⟩
  obtain ⟨e', leading'⟩ : ∃ e', Int.log 10 read.value = e' := ⟨_, rfl⟩
  rcases Int.lt_or_le e e' with beyond | within
  · -- The decimal is at most the power of ten that the magnitude it is read as reaches.
    have power : (⟨1, e'⟩ : Decimal).value = 10 ^ e' := by simp [Decimal.value]
    refine isSome_withPlaces? nonzero' (d := ⟨1, e'⟩)
      (rank_eq_of_between same.symm (.inl ⟨?_, ?_⟩))
      (power.trans (pow_eq_mul_lastUnit counted positive' leading'))
    · rw [value, power]
      exact (roundedTo_mem counted positive leading).2.trans
        (zpow_le_zpow_right₀ (by norm_num) beyond)
    · exact power.le.trans ((log_eq_iff positive').1 leading').1
  · -- The unit of the magnitude is a multiple of the unit of the one the decimal is read as.
    obtain ⟨j, wider⟩ := Int.le.dest within
    have unit : lastUnit p magnitude.value = (10 ^ j : Int) * lastUnit p read.value := by
      rw [lastUnit_eq positive leading, lastUnit_eq positive' leading', pow_eq_mul_pow j]
      congr 2
      omega
    obtain ⟨c, multiple⟩ : ∃ c : Int, roundedTo p magnitude.value = c * lastUnit p magnitude.value :=
      ⟨_, rfl⟩
    refine isSome_withPlaces? nonzero' same.symm (c := c * 10 ^ j) ?_
    rw [value, multiple, unit]
    push_cast
    ring

variable (few : places ≤ 15) (normal : binade ≤ magnitude.rank)
  (same : read.rank = (significant places magnitude).rank)

include normal same in
/-- A normal number is rounded to a decimal that is read as half the least normal number or more. -/
theorem pow_le_rank : 2 ^ 51 ≤ read.rank := by
  have half : valueAt (2 ^ 51) = valueAt binade / 2 := by
    have units : unitsAt binade = unitsAt (2 ^ 51) * 2 := by decide +kernel
    rw [valueAt, valueAt, units]
    push_cast
    ring
  have order := strictMono_valueAt.monotone normal
  have kept := half_le_value_significant nonzero places
  rw [same]
  apply le_rank_of_le_value
  rw [half]
  rw [Magnitude.value] at kept
  linarith

omit nonzero in
include few in
theorem pow_countedPlaces_le : 10 ^ countedPlaces places ≤ 10 ^ 15 :=
  Nat.pow_le_pow_right (by decide) (by unfold countedPlaces; omega)

include few normal same

/-- The shortest decimal of the magnitude that a decimal of few digits is read as is this decimal. -/
theorem value_shortest : (shortest read).value = (significant places magnitude).value := by
  have reached := pow_le_rank nonzero normal same
  have nonzero' : read.rank ≠ 0 := by omega
  have found := isSome_withPlaces?_of_significant nonzero nonzero' same
  have short := coefficient_shortest_le nonzero' (one_le_countedPlaces places)
    (by unfold countedPlaces enoughPlaces; omega) found
  apply value_eq_of_rank_eq
  · rw [rank_shortest nonzero', same]
  · exact short.trans (pow_countedPlaces_le few)
  · exact (coefficient_significant_le nonzero places).trans (pow_countedPlaces_le few)
  · rwa [rank_shortest nonzero']

/-- An integer below the end of the range that a decimal of few digits is read as is this decimal.
Beyond `10 ^ 15` both are multiples of the gap, which divides two, and the decimal ends in a zero. -/
theorem value_integer {k : Nat} (whole : read.value = k)
    (small : read.rank < Binary64.endMagnitude.rank) :
    (k : ℚ) = (significant places magnitude).value := by
  have short :=
    (coefficient_significant_le nonzero places).trans (pow_countedPlaces_le few)
  rcases le_or_gt k (10 ^ 15) with low | high
  · have value : (⟨k, 0⟩ : Decimal).value = k := by simp [Decimal.value]
    have rank : (⟨k, 0⟩ : Decimal).rank = read.rank := rank_of_value_eq (value.trans whole.symm)
    rw [← value]
    exact value_eq_of_rank_eq (rank.trans same) low short
      (rank ▸ pow_le_rank nonzero normal same)
  · have large : 10 ^ 15 < valueAt read.rank := by
      rw [show valueAt read.rank = k from whole]
      exact_mod_cast high
    obtain ⟨n, multiple⟩ := exists_eq_mul_pow (one_le_exponent short (same ▸ large))
    obtain ⟨j, gaps⟩ := exists_mul_gapAt_eq_two small
    rw [same] at gaps
    have steps : (significant places magnitude).value =
        (n * 5 * 2 ^ j : Int) * gapAt (significant places magnitude).rank := by
      rw [multiple, zpow_one]
      push_cast
      rw [mul_assoc (n * 5 : ℚ), gaps]
      ring
    rw [← whole, Magnitude.value, same]
    exact valueAt_rank_of_eq_mul steps

/-- The text of the magnitude that a decimal of few digits is read as shows this decimal. -/
theorem value_shownDecimal :
    (Binary64.shownDecimal read).value = (significant places magnitude).value := by
  unfold Binary64.shownDecimal
  split
  case isTrue whole =>
    have integer : read.value = (read.units / unitsPerOne : Nat) := by
      rw [read.value_eq_div, div_eq_iff cast_unitsPerOne_pos.ne', ← Nat.cast_mul,
        Nat.div_mul_cancel whole.1]
    rw [← value_integer nonzero few normal same integer whole.2]
    simp [Decimal.value]
  case isFalse => exact value_shortest nonzero few normal same

end Survival

end Reckoner.Decimal
