import Mathlib.Data.Nat.Factorial.Basic
import Reckoner.Expr.Evaluation
import Reckoner.Proofs.Binary64.Integer

/-!
# Operations behind their checks

The operations that may be misused are used where they are defined: behind the check of a divisor,
of an angle or of a radicand, the operation is the total one, and an overflow of the exponential is
caught.  Of the factorial this takes an argument for each step: the integer nearest to a number is a
number and is not negative, and the factorials up to the limit are those below the overflow point.
-/

namespace Reckoner

open Binary64 (finite infinite zero ofInt overflowPoint)

variable {context : Context} {settings : Settings} {function : Builtin} {f : Binary64 → Binary64}
  {x y : Binary64}

section Checked

variable {α β : Type}

theorem Partial.checked_ok (a : α) : Partial.checked (.ok a) = .ok a := rfl

theorem Partial.checked_bind (a : α) (next : α → Evaluated β) :
    Partial.checked (.ok a) >>= next = next a := rfl

end Checked

/-- The check of the divisor leaves the quotient nothing to complain about. -/
theorem Operator.apply_div : Operator.div.apply context x y =
    if y.eq zero then .error (.failure .divisionByZero)
    else realOr (.operatorWithoutResult .div) (x / y) := by
  unfold Operator.apply Partial.quotient
  dsimp only
  split <;> rfl

namespace Builtin

/-- The number of radians in a degree is finite and positive, and at most one. -/
theorem radiansPerDegree_le_one : ∃ magnitude, radiansPerDegree = .finite false magnitude ∧
    magnitude.rank ≠ 0 ∧ magnitude.units ≤ unitsPerOne :=
  ⟨⟨0x3f91df46a2529d39, by decide⟩, by decide +kernel, by decide, by decide +kernel⟩

/-- A finite angle is finite in radians. -/
theorem isFinite_toRadians (finite : x.isFinite = true) :
    (toRadians settings x).isFinite = true := by
  unfold toRadians
  split
  · exact finite
  · obtain ⟨magnitude, value, -, small⟩ := radiansPerDegree_le_one
    rw [value]
    exact Binary64.isFinite_mul finite small

/-- An angle that is not infinite is not infinite in radians either. -/
theorem isInfinite_toRadians (bounded : x.isInfinite = false) :
    (toRadians settings x).isInfinite = false := by
  cases x with
  | nan =>
      unfold toRadians
      split <;> rfl
  | infinite s => cases bounded
  | finite s a => exact Binary64.isInfinite_of_isFinite (isFinite_toRadians rfl)

theorem ofAngle_eq : ofAngle settings function f x =
    if x.isInfinite then outsideDomain (.infiniteAngle function x)
    else .ok (f (toRadians settings x)) := by
  unfold ofAngle Partial.ofAngle
  split
  · rfl
  · rename_i bounded
    rw [isInfinite_toRadians (Bool.eq_false_iff.2 bounded)]
    rfl

theorem ofPositive_eq : ofPositive function f x =
    if x.le zero then outsideDomain (.nonPositiveLogarithm function x) else .ok (f x) := by
  unfold ofPositive Partial.ofPositive
  split <;> rfl

/-- An overflow is caught, so that the exponential always has a result. -/
theorem exponential_eq : exponential f x =
    .ok (if x.isFinite && (f x).isInfinite then infinite false else f x) := by
  unfold exponential Partial.exponential
  by_cases overflows : (x.isFinite && (f x).isInfinite) = true
  · rw [if_pos overflows, if_pos overflows]
  · rw [if_neg overflows, if_neg overflows]
    rfl

theorem applyOne_sqrt : applyOne context .sqrt x =
    if x.lt zero then outsideDomain (.negativeSquareRoot x) else .ok x.sqrt := by
  unfold applyOne Partial.root
  dsimp only
  split <;> rfl

section Factorial

/-- The computed product is the factorial. -/
theorem factorialNat_eq (n : Nat) : Partial.factorialNat n = n.factorial := by
  induction n with
  | zero => rfl
  | succ n ih => rw [Partial.factorialNat, ih, Nat.factorial_succ]

/-- The limit is the right one: the factorials beyond it are those beyond the finite numbers. -/
theorem overflowPoint_le_factorial_iff {n : ℕ} :
    overflowPoint ≤ n.factorial ↔ greatestFactorial < n := by
  have above : 2 ^ 1024 ≤ Nat.factorial 171 := by decide +kernel
  have below : Nat.factorial 170 ≤ 2 ^ 1023 := by decide +kernel
  have most : overflowPoint ≤ 2 ^ 1024 := sub_le_self _ (by positivity)
  have least : 2 ^ 1023 < overflowPoint := by
    rw [overflowPoint, lt_sub_comm, pow_succ 2 1023, mul_two, add_sub_cancel_right]
    exact pow_lt_pow_right₀ one_lt_two (by decide)
  rw [greatestFactorial]
  constructor
  · intro beyond
    by_contra small
    have grown := (Nat.factorial_le (by omega : n ≤ 170)).trans below
    have within : (n.factorial : ℚ) ≤ 2 ^ 1023 := by exact_mod_cast grown
    exact absurd (beyond.trans within) (not_le.2 least)
  · intro large
    have grown := above.trans (Nat.factorial_le (by omega : 171 ≤ n))
    exact most.trans (by exact_mod_cast grown)

/-- An integer before the overflow point is converted. -/
theorem ofInteger_natCast {n : ℕ} (below : (n : ℚ) < overflowPoint) :
    Partial.ofInteger n = .ok (.ofNat n) := by
  have same : ofInt n = .ofNat n := by
    rw [ofInt, Binary64.ofNat, decide_eq_false (by omega), Int.natAbs_natCast]
  have bounded := (Binary64.rounds_ofNat n).isInfinite_iff.not.2 (not_le.2 below)
  rw [Partial.ofInteger, same, if_neg bounded]

/-- The factorials up to the limit are numbers. -/
theorem checked_factorial {n : ℤ} (nonneg : 0 ≤ n) (small : ¬greatestFactorial < n) :
    (do (Partial.ofInteger (← (Partial.factorial n).checked)).checked : Evaluated Binary64) =
      .ok (.ofNat n.toNat.factorial) := by
  have below : (n.toNat.factorial : ℚ) < overflowPoint := by
    rw [← not_le, overflowPoint_le_factorial_iff, Int.toNat_of_nonneg nonneg]
    exact small
  rw [Partial.factorial, if_neg (not_lt.2 nonneg), factorialNat_eq, Partial.checked_bind,
    ofInteger_natCast below, Partial.checked_ok]

/-- A finite number is rounded to an integer, which is converted back. -/
theorem checked_nearest (s : Bool) (a : Magnitude) :
    Partial.nearest (finite s a) = .ok (halfEven (finite s a).value) ∧
      Partial.ofInteger (halfEven (finite s a).value) =
        .ok (ofInt (halfEven (finite s a).value)) := by
  obtain ⟨negative, k, converted, -⟩ := Binary64.exists_ofInt_halfEven s a
  rw [Partial.nearest, Binary64.nearestInteger?_finite, Partial.ofInteger, converted]
  exact ⟨rfl, rfl⟩

/-- The factorial of a number with operations that are never misused, except by NaN. -/
theorem factorialOf_eq_match : factorialOf settings x =
    if x.lt zero then outsideDomain (.negativeFactorial x)
    else if x.isInfinite then .ok (infinite false)
    else
      match x.nearestInteger? with
      | none => .error (.misuse .roundedNaN)
      | some n =>
          if settings.integerTolerance.lt (x - ofInt n).abs then
            outsideDomain (.fractionalFactorial x)
          else if greatestFactorial < n then .ok (infinite false)
          else .ok (.ofNat n.toNat.factorial) := by
  unfold factorialOf
  by_cases negative : x.lt zero = true
  · rw [if_pos negative, if_pos negative]
  · rw [if_neg negative, if_neg negative]
    cases x with
    | nan => rfl
    | infinite s => rfl
    | finite s a =>
        obtain ⟨nearest, converted⟩ := checked_nearest s a
        have nonneg : 0 ≤ halfEven (finite s a).value := by
          rw [Binary64.lt_eq_not_le rfl rfl] at negative
          exact le_halfEven (Binary64.value_nonneg_iff.1 (by simpa using negative))
        have bounded : ¬(finite s a).isInfinite = true := Bool.false_ne_true
        rw [if_neg bounded, if_neg bounded, nearest, Partial.checked_bind, converted,
          Partial.checked_bind, Binary64.nearestInteger?_finite]
        dsimp only
        by_cases large : greatestFactorial < halfEven (finite s a).value
        · rw [if_pos large, if_pos large]
        · rw [if_neg large, if_neg large, checked_factorial nonneg large]

end Factorial

end Builtin

end Reckoner
