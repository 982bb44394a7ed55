import Reckoner.Proofs.Binary64.Value
import Reckoner.Proofs.Decimal.Significant

/-!
# Integers among the numbers

The integer nearest to a finite number is itself a number, and so is the distance between the two, so
that converting the one and subtracting it rounds nothing.  Whether an integer is odd is seen from the
remainder when it is divided by two.

## Implementation notes

A number with a fraction is less than two binades of its steps away from zero, and one is a power of
two of these steps.  So the nearest integer and the distance are numbers of steps within two binades
again.  A number whose steps are wider than one is an integer.
-/

namespace Reckoner

/-- One stands at a power of two, and so does what is two binades of ones away from zero. -/
theorem exists_unitsPerOne_eq : ∃ e : Nat, unitsPerOne = 2 ^ e ∧ (e + 2) * binade < magnitudeCount :=
  ⟨1074, by decide +kernel, by decide⟩

namespace Magnitude

variable {a : Magnitude} {c s : Nat}

/-- Within two binades of steps of a spacing, what is at most a magnitude is one. -/
theorem exists_units_eq (few : c ≤ 2 * binade) (within : c * 2 ^ s ≤ a.units) :
    ∃ m : Magnitude, m.units = c * 2 ^ s := by
  obtain ⟨rank, units⟩ := exists_unitsAt_eq s few
  rw [← units, units_eq_unitsAt, strictMono_unitsAt.le_iff_le] at within
  exact ⟨⟨rank, within.trans_lt a.rank_lt⟩, units⟩

/-- Up to two binades, every integer is a magnitude. -/
theorem exists_units_eq_of_integer (few : c ≤ 2 * binade) :
    ∃ m : Magnitude, m.units = c * unitsPerOne := by
  obtain ⟨e, one, inside⟩ := exists_unitsPerOne_eq
  have most : unitsAt ((e + 2) * binade) = 2 * binade * 2 ^ e := by
    rw [Nat.succ_mul, unitsAt_first, pow_succ]
    ring
  rw [one]
  refine exists_units_eq (a := ⟨_, inside⟩) few ?_
  rw [units_eq_unitsAt, most]
  exact Nat.mul_le_mul_right _ few

/-- A magnitude rounded to an integer does not move by more than the magnitude. -/
theorem abs_units_sub_le (a : Magnitude) :
    |(a.units : ℤ) - (roundHalfEven a.units unitsPerOne * unitsPerOne : Nat)| ≤ a.units := by
  obtain ⟨-, near⟩ := roundHalfEven_near (n := a.units) unitsPerOne_pos
  obtain ⟨near', -⟩ := roundHalfEven_near (n := a.units) unitsPerOne_pos
  rw [abs_le]
  rcases Nat.eq_zero_or_pos (roundHalfEven a.units unitsPerOne) with none | some
  · rw [none]
    omega
  · have one : unitsPerOne ≤ roundHalfEven a.units unitsPerOne * unitsPerOne :=
      Nat.le_mul_of_pos_left _ some
    omega

/-- A magnitude rounded to an integer is a magnitude, and so is what is rounded away. -/
theorem exists_nearest_units (a : Magnitude) : ∃ k d : Magnitude,
    k.units = roundHalfEven a.units unitsPerOne * unitsPerOne ∧
      (d.units : ℤ) = |(a.units : ℤ) - k.units| := by
  obtain ⟨s, c, rank, doubled, within⟩ := exists_steps a.rank
  have units : a.units = c * 2 ^ s := by
    rw [units_eq_unitsAt, rank]
    exact (unitsAt_add doubled within).2
  obtain ⟨e, one, -⟩ := exists_unitsPerOne_eq
  rcases Nat.le_total s e with fine | wide
  · rw [← Nat.pow_sub_mul_pow 2 fine] at one
    have few : roundHalfEven a.units unitsPerOne ≤ c := by
      refine roundHalfEven_le unitsPerOne_pos ?_
      rw [units, one]
      exact Nat.mul_le_mul_left c (Nat.le_mul_of_pos_left _ (Nat.two_pow_pos _))
    obtain ⟨k, integer⟩ := exists_units_eq_of_integer (few.trans within.le)
    have moved := a.abs_units_sub_le
    obtain ⟨j, steps⟩ : ∃ j : Nat,
        |(a.units : ℤ) - (roundHalfEven a.units unitsPerOne * unitsPerOne : Nat)| =
          (j * 2 ^ s : Nat) := by
      generalize roundHalfEven a.units unitsPerOne = n
      refine ⟨(c - n * 2 ^ (e - s) : ℤ).natAbs, ?_⟩
      rw [units, one]
      push_cast
      rw [← mul_assoc, ← sub_mul, abs_mul, abs_of_pos (a := (2 : ℤ) ^ s) (by positivity)]
    rw [steps, Nat.cast_le] at moved
    have less : j ≤ c := Nat.le_of_mul_le_mul_right (units ▸ moved) (Nat.two_pow_pos s)
    obtain ⟨d, difference⟩ := exists_units_eq (less.trans within.le) moved
    exact ⟨k, d, integer, by rw [difference, integer, steps]⟩
  · rw [← Nat.pow_sub_mul_pow 2 wide, ← Nat.mul_assoc, ← one] at units
    refine ⟨a, .zero, ?_, ?_⟩
    · rw [units, roundHalfEven_mul unitsPerOne_pos]
    · rw [sub_self, abs_zero, (units_eq_zero_iff .zero).2 rfl, Nat.cast_zero]

/-- The integer nearest to a magnitude is one, and so is the distance between the two. -/
theorem exists_nearest (a : Magnitude) : ∃ k d : Magnitude,
    k.value = halfEven a.value ∧ d.value = |a.value - halfEven a.value| := by
  obtain ⟨k, d, integer, difference⟩ := a.exists_nearest_units
  have rounded := halfEven_div (n := a.units) unitsPerOne_pos
  have one := cast_unitsPerOne_pos
  have distance : (d.units : ℚ) = |(a.units : ℚ) - k.units| := by
    rw [← Int.cast_natCast d.units, difference, Int.cast_abs, Int.cast_sub, Int.cast_natCast,
      Int.cast_natCast]
  refine ⟨k, d, ?_⟩
  rw [a.value_eq_div, rounded, k.value_eq_div, d.value_eq_div, distance, integer]
  generalize unitsPerOne = u at *
  generalize roundHalfEven a.units u = n
  have counted := abs_div_sub one a.units n
  rw [Int.cast_natCast] at counted ⊢
  rw [counted, Nat.cast_mul]
  exact ⟨mul_div_cancel_right₀ _ one.ne', rfl⟩

end Magnitude

namespace Binary64

variable {x : Binary64} {s : Bool} {a m : Magnitude}

/-- A finite number is rounded to an integer like its value. -/
theorem nearestInteger?_finite (s : Bool) (a : Magnitude) :
    (finite s a).nearestInteger? = some (halfEven (finite s a).value) := by
  have nearest : halfEven a.value = roundHalfEven a.units unitsPerOne :=
    halfEven_div unitsPerOne_pos
  rw [nearestInteger?]
  cases s with
  | false => rw [if_neg Bool.false_ne_true, value_positive, nearest]
  | true => rw [if_pos rfl, value_negative, halfEven_neg, nearest]

/-- An integer is converted exactly if its absolute value is that of a magnitude. -/
theorem exists_ofInt_eq {n : ℤ} (exact : m.value = |(n : ℚ)|) :
    ∃ negative, ofInt n = finite negative m ∧ (finite negative m).value = n := by
  have one := cast_unitsPerOne_pos
  have units : n.natAbs * unitsPerOne = m.units := by
    rw [m.value_eq_div, div_eq_iff one.ne'] at exact
    have counted : ((n.natAbs * unitsPerOne : Nat) : ℚ) = m.units := by
      rw [exact, Nat.cast_mul, Nat.cast_natAbs, Int.cast_abs]
    exact_mod_cast counted
  have own := m.nearestRank_units Nat.one_pos
  rw [Nat.mul_one] at own
  refine ⟨decide (n < 0), ?_, ?_⟩
  · rw [ofInt, ofRatio, ofUnits, units, own, ofRank, dif_pos m.rank_lt]
  · by_cases negative : n < 0
    · rw [decide_eq_true negative, value_negative, exact, abs_of_neg (Int.cast_lt_zero.2 negative),
        neg_neg]
    · rw [decide_eq_false negative, value_positive, exact,
        abs_of_nonneg (Int.cast_nonneg (not_lt.1 negative))]

/-- The integer nearest to a finite number is converted exactly. -/
theorem exists_ofInt_halfEven (s : Bool) (a : Magnitude) : ∃ negative k,
    ofInt (halfEven (finite s a).value) = finite negative k ∧
      (finite negative k).value = halfEven (finite s a).value := by
  obtain ⟨k, -, integer, -⟩ := a.exists_nearest
  have size : k.value = |(halfEven (finite s a).value : ℚ)| := by
    have nonneg := k.value_nonneg
    rw [← abs_of_nonneg nonneg]
    cases s <;> simp [halfEven_neg, integer]
  obtain ⟨negative, converted, value⟩ := exists_ofInt_eq size
  exact ⟨negative, k, converted, value⟩

/-- The distance between a finite number and the integer nearest to it is computed exactly. -/
theorem exists_distance_eq (s : Bool) (a : Magnitude) : ∃ d : Magnitude,
    (finite s a - ofInt (halfEven (finite s a).value)).abs = finite false d ∧
      (finite false d).value = |(finite s a).value - halfEven (finite s a).value| := by
  obtain ⟨-, d, -, difference⟩ := a.exists_nearest
  have distance : d.value = |(finite s a).value - halfEven (finite s a).value| := by
    rw [difference]
    cases s <;> simp [halfEven_neg, neg_add_eq_sub, abs_sub_comm]
  obtain ⟨t, k, converted, value⟩ := exists_ofInt_halfEven s a
  rw [← value] at distance ⊢
  obtain ⟨negative, subtracted, -⟩ := exists_sub_eq distance
  refine ⟨d, ?_, distance⟩
  rw [converted, subtracted]
  rfl

section Parity

section Units

variable {k : Nat} (units : a.units = k * unitsPerOne)
include units

theorem exists_odd_value_iff : (∃ n : ℤ, Odd n ∧ (finite s a).value = n) ↔ Odd k := by
  have size : a.value = k := by
    rw [a.value_eq_div, units, Nat.cast_mul, mul_div_cancel_right₀ _ cast_unitsPerOne_pos.ne']
  have value : (finite s a).value = (if s then -(k : ℤ) else k : ℤ) := by
    cases s <;> simp [size]
  simp only [value, Int.cast_inj, exists_eq_right']
  cases s <;> simp

/-- Dividing an integer by two leaves one exactly if it is odd: a negative odd number leaves minus one
first, which is moved up by two. -/
theorem mod_two_eq_one_iff : (finite s a % ofNat 2).eq (ofNat 1) = true ↔ Odd k := by
  have two : ∃ m : Magnitude, ofNat 2 = finite false m ∧ m.rank ≠ 0 ∧ m.units = 2 * unitsPerOne :=
    ⟨⟨0x4000000000000000, by decide⟩, by decide +kernel, by decide, by decide +kernel⟩
  have rest : remainder (finite s a) (ofNat 2) = ofUnits s (k % 2 * unitsPerOne) 1 := by
    obtain ⟨m, value, nonzero, size⟩ := two
    rw [value, remainder, if_neg nonzero, units, size, Nat.mul_mod_mul_right]
  show (mod (finite s a) (ofNat 2)).eq (ofNat 1) = true ↔ Odd k
  rw [Nat.odd_iff, mod, rest]
  rcases Nat.mod_two_eq_zero_or_one k with even | odd
  · rw [even]
    cases s <;> decide +kernel
  · rw [odd]
    cases s <;> decide +kernel

end Units

/-- Integers that leave one when they are divided by two are the odd integers, of either sign and of
any size. -/
theorem isInteger_and_mod_two_iff :
    ((finite s a).isInteger && (finite s a % ofNat 2).eq (ofNat 1)) = true ↔
      ∃ n : ℤ, Odd n ∧ (finite s a).value = n := by
  rw [Bool.and_eq_true]
  constructor
  · rintro ⟨integer, one⟩
    obtain ⟨k, units⟩ := isInteger_iff.1 integer
    rw [mul_comm] at units
    exact (exists_odd_value_iff units).2 ((mod_two_eq_one_iff units).1 one)
  · rintro ⟨n, odd, value⟩
    have integer : (finite s a).isInteger = true := isInteger_iff_value.2 ⟨n, value⟩
    obtain ⟨k, units⟩ := isInteger_iff.1 integer
    rw [mul_comm] at units
    exact ⟨integer, (mod_two_eq_one_iff units).2 ((exists_odd_value_iff units).1 ⟨n, odd, value⟩)⟩

end Parity

end Binary64

end Reckoner
