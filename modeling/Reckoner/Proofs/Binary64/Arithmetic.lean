import Reckoner.Binary64.Arithmetic
import Reckoner.Proofs.Binary64.Rounding

/-!
# Numbers that are not NaN

Which operations keep a number from being NaN or from leaving the finite range, and how the two
orders are related where both sides have a place on the number line.
-/

namespace Reckoner.Binary64

variable {x y : Binary64}

@[simp] theorem isNaN_neg : (-x).isNaN = x.isNaN := by
  cases x <;> rfl

theorem isFinite_of_not_isNaN (real : x.isNaN = false) (bounded : x.isInfinite = false) :
    x.isFinite = true := by
  cases x with
  | nan => cases real
  | infinite negative => cases bounded
  | finite negative magnitude => rfl

theorem isNaN_of_isFinite (bounded : x.isFinite = true) : x.isNaN = false := by
  cases x with
  | nan => cases bounded
  | infinite negative => rfl
  | finite negative magnitude => rfl

theorem isInfinite_of_isFinite (bounded : x.isFinite = true) : x.isInfinite = false := by
  cases x with
  | nan => rfl
  | infinite negative => cases bounded
  | finite negative magnitude => rfl

theorem exists_place (real : x.isNaN = false) : ∃ place, x.place? = some place := by
  cases x with
  | nan => cases real
  | infinite negative => exact ⟨_, rfl⟩
  | finite negative magnitude => exact ⟨_, rfl⟩

theorem exists_nearestInteger (h : x.isFinite = true) : ∃ n, x.nearestInteger? = some n := by
  cases x with
  | nan => cases h
  | infinite negative => cases h
  | finite negative magnitude => exact ⟨_, rfl⟩

/-- The order of numbers is total. -/
theorem lt_eq_not_le (real : x.isNaN = false) (real' : y.isNaN = false) :
    x.lt y = !y.le x := by
  obtain ⟨a, found⟩ := exists_place real
  obtain ⟨b, found'⟩ := exists_place real'
  simp only [lt, le, found, found', ← decide_not, Int.not_le]

theorem isInteger_iff {negative : Bool} {magnitude : Magnitude} :
    (finite negative magnitude).isInteger = true ↔ unitsPerOne ∣ magnitude.units := by
  rw [isInteger, beq_iff_eq, Nat.dvd_iff_mod_eq_zero]

/-- Odd integers are integers. -/
theorem isInteger_of_isOddInteger (odd : x.isOddInteger = true) : x.isInteger = true := by
  cases x with
  | nan => cases odd
  | infinite s => cases odd
  | finite s a => exact (Bool.and_eq_true_iff.1 odd).1

section Order

theorem lt_iff : x.lt y = true ↔ ∃ a b, x.place? = some a ∧ y.place? = some b ∧ a < b := by
  unfold lt
  cases x.place? <;> cases y.place? <;> simp

/-- What is less than something is not NaN, nor is what it is less than. -/
theorem real_of_lt (less : x.lt y = true) : x.isNaN = false ∧ y.isNaN = false := by
  obtain ⟨a, b, found, found', -⟩ := lt_iff.1 less
  constructor
  · cases x <;> first | rfl | cases found
  · cases y <;> first | rfl | cases found'

/-- Equal numbers stand at one place. -/
theorem eq_iff : x.eq y = true ↔ ∃ place, x.place? = some place ∧ y.place? = some place := by
  unfold eq
  cases x.place? <;> cases y.place? <;> simp [eq_comm]

theorem eq_zero_iff {negative : Bool} {magnitude : Magnitude} :
    (finite negative magnitude).eq zero = true ↔ magnitude.rank = 0 := by
  cases negative <;> simp [eq, place?, place?.signed, zero, Magnitude.zero]

theorem isFinite_of_eq_zero (isZero : x.eq zero = true) : x.isFinite = true := by
  cases x with
  | nan => cases isZero
  | infinite negative => cases negative <;> exact absurd isZero (by decide)
  | finite negative magnitude => rfl

/-- The one negative number that is not finite. -/
theorem eq_infinite_of_lt_zero (negative : x.lt zero = true) (unbounded : x.isFinite = false) :
    x = infinite true := by
  cases x with
  | nan => cases negative
  | infinite sign =>
      cases sign with
      | false => exact absurd negative (by decide)
      | true => rfl
  | finite sign magnitude => cases unbounded

/-- Of two numbers that are not equal, one is less than the other. -/
theorem lt_or_lt (real : x.isNaN = false) (real' : y.isNaN = false) (other : x.eq y = false) :
    x.lt y = true ∨ y.lt x = true := by
  obtain ⟨a, found⟩ := exists_place real
  obtain ⟨b, found'⟩ := exists_place real'
  simp only [eq, lt, found, found', decide_eq_false_iff_not, decide_eq_true_eq] at other ⊢
  omega

theorem lt_asymm (less : x.lt y = true) : y.lt x = false := by
  obtain ⟨a, b, found, found', order⟩ := lt_iff.1 less
  simpa only [lt, found, found', decide_eq_false_iff_not, Int.not_lt] using order.le

theorem not_eq_of_lt (less : x.lt y = true) : x.eq y = false := by
  obtain ⟨a, b, found, found', order⟩ := lt_iff.1 less
  simpa only [eq, found, found', decide_eq_false_iff_not] using order.ne

theorem infinite_le (real : x.isNaN = false) : (infinite true).le x = true := by
  match x with
  | nan => cases real
  | infinite true | infinite false => decide
  | finite s a =>
      have below := a.rank_lt
      cases s <;> simp [le, place?, place?.signed]
      omega

theorem le_infinite (real : x.isNaN = false) : x.le (infinite false) = true := by
  match x with
  | nan => cases real
  | infinite true | infinite false => decide
  | finite s a =>
      have below := a.rank_lt
      cases s <;> simp [le, place?, place?.signed]
      omega

/-- Numbers in order are finite, unless the lesser one is the lesser infinity or the greater one the
greater infinity. -/
theorem le_cases (order : x.le y = true) : x = infinite true ∨ y = infinite false ∨
    ∃ s a t b, x = finite s a ∧ y = finite t b ∧
      place?.signed s a.rank ≤ place?.signed t b.rank := by
  cases y with
  | nan => cases x <;> cases order
  | infinite t =>
      cases t with
      | false => exact .inr (.inl rfl)
      | true =>
          cases x with
          | nan => cases order
          | infinite s =>
              cases s with
              | false => exact absurd order (by decide)
              | true => exact .inl rfl
          | finite s a =>
              have below := a.rank_lt
              cases s <;> simp [le, place?, place?.signed] at order <;> omega
  | finite t b =>
      cases x with
      | nan => cases order
      | infinite s =>
          cases s with
          | false =>
              have below := b.rank_lt
              cases t <;> simp [le, place?, place?.signed] at order <;> omega
          | true => exact .inl rfl
      | finite s a => exact .inr (.inr ⟨s, a, t, b, rfl, rfl, of_decide_eq_true order⟩)

/-- Numbers that are compared are not NaN. -/
theorem real_of_le (order : x.le y = true) : x.isNaN = false ∧ y.isNaN = false := by
  match x, y with
  | nan, _ => cases order
  | infinite _, nan | finite _ _, nan => cases order
  | infinite _, infinite _ | infinite _, finite _ _ | finite _ _, infinite _
  | finite _ _, finite _ _ => exact ⟨rfl, rfl⟩

theorem lt_of_le_of_lt {z : Binary64} (order : x.le y = true) (less : y.lt z = true) :
    x.lt z = true := by
  obtain ⟨b, c, found, found', less⟩ := lt_iff.1 less
  obtain ⟨a, place⟩ := exists_place (real_of_le order).1
  simp only [le, place, found, decide_eq_true_eq] at order
  exact lt_iff.2 ⟨a, c, place, found', order.trans_lt less⟩

/-- Numbers at one place of the number line are less than the same numbers. -/
theorem lt_congr_left {z : Binary64} (same : x.place? = y.place?) : x.lt z = y.lt z := by
  unfold lt
  rw [same]

theorem place?_ofRank (negative : Bool) (rank : Nat) :
    (ofRank negative rank).place? = some (place?.signed negative (min rank magnitudeCount)) := by
  unfold ofRank
  split
  case isTrue inside => rw [Nat.min_eq_left inside.le, place?]
  case isFalse outside => rw [Nat.min_eq_right (Nat.not_lt.1 outside), place?]

end Order

theorem mul_finite {s t : Bool} {a b : Magnitude} :
    finite s a * finite t b = ofUnits (s != t) (a.units * b.units) unitsPerOne := by
  show mul _ _ = _
  rw [mul]

theorem mul_infinite_finite {s t : Bool} {b : Magnitude} (nonzero : b.rank ≠ 0) :
    infinite s * finite t b = infinite (s != t) :=
  if_neg nonzero

/-- A product with a number of at most one is finite when the other factor is. -/
theorem isFinite_mul {negative : Bool} {magnitude : Magnitude} (h : x.isFinite = true)
    (small : magnitude.units ≤ unitsPerOne) : (x * finite negative magnitude).isFinite = true := by
  cases x with
  | nan => cases h
  | infinite sign => cases h
  | finite sign factor =>
      rw [mul_finite]
      exact isFinite_ofUnits unitsPerOne_pos (Nat.mul_le_mul_left factor.units small)

end Reckoner.Binary64
