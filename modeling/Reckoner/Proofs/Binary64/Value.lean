import Reckoner.Proofs.Binary64.Arithmetic
import Reckoner.Proofs.Decimal.Nearest

/-!
# Numbers on the rational line

Finite numbers are ordered like their values, and a sum of them is exact if its value is that of a
number.  The number that is nearest to a natural number is correctly rounded.

## Implementation notes

Exactness is counted in units: the spacing of the lesser operand is a step that the sum is a multiple
of, and up to two binades of such steps lead to a rank.
-/

namespace Reckoner

open Binary64 (overflowPoint)

section Signs

variable {α : Type*} [AddCommGroup α] [LinearOrder α] [IsOrderedAddMonoid α]

/-- What grows from zero on with the magnitude grows with the place of the number. -/
theorem signed_le_signed {f : Magnitude → α} (zero : f .zero = 0)
    (grows : ∀ a b, a.rank ≤ b.rank → f a ≤ f b) {s t : Bool} {a b : Magnitude}
    (order : Binary64.place?.signed s a.rank ≤ Binary64.place?.signed t b.rank) :
    (if s then -f a else f a) ≤ if t then -f b else f b := by
  have nonneg (m : Magnitude) : 0 ≤ f m := zero ▸ grows .zero m (Nat.zero_le _)
  cases s <;> cases t <;> simp [Binary64.place?.signed] at order ⊢
  · exact grows a b order
  · have least : a = .zero := Magnitude.eq_of_rank_eq (show a.rank = 0 by omega)
    have least' : b = .zero := Magnitude.eq_of_rank_eq (show b.rank = 0 by omega)
    simp [least, least', zero]
  · exact (neg_nonpos.2 (nonneg a)).trans (nonneg b)
  · exact grows b a order

end Signs

namespace Binary64

variable {x y : Binary64} {s t : Bool} {a b m : Magnitude}

theorem value_eq_div (s : Bool) (a : Magnitude) :
    (finite s a).value = signedUnits s a / unitsPerOne := by
  cases s with
  | false => rw [value_positive, a.value_eq_div, signedUnits, if_neg Bool.false_ne_true,
      Int.cast_natCast]
  | true => rw [value_negative, a.value_eq_div, signedUnits, if_pos rfl, Int.cast_neg,
      Int.cast_natCast, neg_div]

@[simp] theorem value_zero : zero.value = 0 := valueAt_zero

/-- Finite numbers are ordered like their values. -/
theorem le_finite_iff : (finite s a).le (finite t b) = true ↔
    (finite s a).value ≤ (finite t b).value := by
  have order := strictMono_unitsAt.le_iff_le (a := a.rank) (b := b.rank)
  have order' := strictMono_unitsAt.le_iff_le (a := b.rank) (b := a.rank)
  have zero := a.units_eq_zero_iff
  have zero' := b.units_eq_zero_iff
  rw [value_eq_div, value_eq_div, div_le_div_iff_of_pos_right cast_unitsPerOne_pos, Int.cast_le]
  cases s <;> cases t <;>
    simp [le, place?, place?.signed, signedUnits, Magnitude.units_eq_unitsAt] at * <;> omega

theorem lt_finite_iff : (finite s a).lt (finite t b) = true ↔
    (finite s a).value < (finite t b).value := by
  rw [lt_eq_not_le rfl rfl, Bool.not_eq_true', ← not_le, ← le_finite_iff, Bool.not_eq_true]

theorem value_nonneg_iff : zero.le (finite s a) = true ↔ 0 ≤ (finite s a).value := by
  rw [← value_zero]
  exact le_finite_iff

theorem isInteger_iff_value : (finite s a).isInteger = true ↔
    ∃ n : ℤ, (finite s a).value = n := by
  rw [isInteger_iff, Magnitude.dvd_units_iff]
  constructor
  · rintro ⟨k, whole⟩
    refine ⟨if s then -(k : ℤ) else k, ?_⟩
    cases s <;> simp [whole]
  · rintro ⟨n, whole⟩
    have size : a.value = |(finite s a).value| := by
      cases s <;> simp [abs_of_nonneg a.value_nonneg]
    refine ⟨n.natAbs, ?_⟩
    rw [size, whole, Nat.cast_natAbs, Int.cast_abs]

/-- A number whose value is no integer is no integer, and it is not zero. -/
theorem not_isInteger_of_fractional (bounded : x.isFinite = true)
    (fractional : ∀ n : ℤ, x.value ≠ n) : x.isInteger = false ∧ x.eq zero = false := by
  cases x with
  | nan => cases bounded
  | infinite s => cases bounded
  | finite s a =>
      constructor
      · by_contra integer
        obtain ⟨n, value⟩ := isInteger_iff_value.1 (Bool.not_eq_false _ ▸ integer)
        exact fractional n value
      · by_contra isZero
        have none : a.rank = 0 := eq_zero_iff.1 (Bool.not_eq_false _ ▸ isZero)
        cases (Magnitude.eq_of_rank_eq none : a = .zero)
        refine fractional 0 ?_
        cases s <;> simp [Magnitude.value, Magnitude.zero, valueAt_zero]

section Exact

theorem value_not (s : Bool) (a : Magnitude) : (finite (!s) a).value = -(finite s a).value := by
  cases s <;> simp

/-- A sum is exact if its value is that of a magnitude, but for the sign. -/
theorem exists_add_eq (exact : m.value = |(finite s a).value + (finite t b).value|) :
    ∃ negative, finite s a + finite t b = finite negative m ∧
      (finite negative m).value = (finite s a).value + (finite t b).value := by
  have opened : finite s a + finite t b =
      if signedUnits s a + signedUnits t b = 0 then finite (s && t) .zero
      else ofUnits (decide (signedUnits s a + signedUnits t b < 0))
        (signedUnits s a + signedUnits t b).natAbs 1 := by
    show add _ _ = _
    rw [add]
  have own := m.nearestRank_units Nat.one_pos
  rw [Nat.mul_one] at own
  simp only [value_eq_div, ← add_div, ← Int.cast_add] at exact ⊢
  generalize signedUnits s a + signedUnits t b = sum at exact opened ⊢
  have size : m.units = sum.natAbs := by
    rw [abs_div, abs_of_pos cast_unitsPerOne_pos, m.value_eq_div,
      div_left_inj' cast_unitsPerOne_pos.ne'] at exact
    have cast : (m.units : ℤ) = |sum| := by exact_mod_cast exact
    rwa [← Int.natCast_natAbs, Nat.cast_inj] at cast
  by_cases none : sum = 0
  · have zero : m = .zero :=
      Magnitude.eq_of_rank_eq (m.units_eq_zero_iff.1 (size.trans (by rw [none, Int.natAbs_zero])))
    refine ⟨s && t, by rw [opened, if_pos none, zero], ?_⟩
    rw [signedUnits, size, none, Int.natAbs_zero, Nat.cast_zero, neg_zero, ite_self]
  · refine ⟨decide (sum < 0), ?_, ?_⟩
    · rw [opened, if_neg none, ofUnits, ← size, own, ofRank, dif_pos m.rank_lt]
    · congr 2
      rw [signedUnits, size]
      split
      case isTrue negative => have := of_decide_eq_true negative; omega
      case isFalse positive => have := of_decide_eq_false (Bool.eq_false_iff.2 positive); omega

/-- A difference is exact if its value is that of a magnitude, but for the sign. -/
theorem exists_sub_eq (exact : m.value = |(finite s a).value - (finite t b).value|) :
    ∃ negative, finite s a - finite t b = finite negative m ∧
      (finite negative m).value = (finite s a).value - (finite t b).value := by
  rw [sub_eq_add_neg, ← value_not] at exact ⊢
  exact exists_add_eq exact

end Exact

section Correct

/-- The number is the correctly rounded one for a value that is not negative: an infinity from the
overflow point on, and before it a number that no other one is nearer to, with an even significand if
another one is as near. -/
inductive Rounds (v : ℚ) : Binary64 → Prop
  | overflow : overflowPoint ≤ v → Rounds v (infinite false)
  | nearest (a : Magnitude) : v < overflowPoint → (∀ b : Magnitude, |a.value - v| ≤ |b.value - v|) →
      (∀ b : Magnitude, b ≠ a → |b.value - v| = |a.value - v| → Even a.significand) →
      Rounds v (finite false a)

/-- From the overflow point on, only an infinity is correct. -/
theorem Rounds.eq_infinite {v : ℚ} (rounds : Rounds v x) (beyond : overflowPoint ≤ v) :
    x = infinite false := by
  cases rounds with
  | overflow => rfl
  | nearest a inside => exact absurd beyond (not_le.2 inside)

/-- The correct number is an infinity from the overflow point on only. -/
theorem Rounds.isInfinite_iff {v : ℚ} (rounds : Rounds v x) :
    x.isInfinite = true ↔ overflowPoint ≤ v := by
  cases rounds with
  | overflow beyond => exact iff_of_true rfl beyond
  | nearest a inside => exact iff_of_false Bool.false_ne_true (not_le.2 inside)

/-- The significand is even if the rank is. -/
theorem significand_mod_two (a : Magnitude) : a.significand % 2 = a.rank % 2 := by
  have part := Nat.div_mul_le_self a.rank binade
  rw [Magnitude.significand, Magnitude.shift]
  simp only [binade, Nat.pow_eq] at part ⊢
  omega

/-- A decimal is read as the correctly rounded number. -/
theorem rounds_toBinary64 (d : Decimal) : Rounds d.value (d.toBinary64 false) := by
  rw [Decimal.toBinary64_eq, ofRank]
  by_cases inside : d.rank < magnitudeCount
  · rw [dif_pos inside]
    refine .nearest _ ?_ (fun b => d.abs_valueAt_rank_sub_le b.rank) fun b other tie => ?_
    · exact not_le.1 (Decimal.magnitudeCount_le_rank_iff.not.1 (not_le.2 inside))
    · rw [Nat.even_iff, significand_mod_two]
      exact d.rank_even_of_tie tie fun same => other (Magnitude.eq_of_rank_eq same)
  · rw [dif_neg inside]
    exact .overflow (Decimal.magnitudeCount_le_rank_iff.1 (not_lt.1 inside))

/-- A natural number is converted to the correctly rounded number. -/
theorem rounds_ofNat (n : Nat) : Rounds n (ofNat n) := by
  have value : (⟨n, 0⟩ : Decimal).value = n := by simp [Decimal.value]
  have rank : (⟨n, 0⟩ : Decimal).rank = nearestRank (n * unitsPerOne) 1 := by
    simp [Decimal.rank, Decimal.numerator, Decimal.denominator]
  have rounds := rounds_toBinary64 ⟨n, 0⟩
  rw [Decimal.toBinary64_eq, value, rank] at rounds
  exact rounds

end Correct

end Binary64

end Reckoner
