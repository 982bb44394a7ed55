import Reckoner.Power
import Reckoner.Proofs.Binary64.Integer
import Reckoner.Proofs.Outcome

/-!
# Where powers exist

A power of finite numbers fails for two reasons, zero raised to a negative power and a negative number
raised to one that is no integer, and is a number otherwise; beyond the finite numbers it has the sign
of the exact power.  With an infinite operand there is a result even where these reasons apply.

## Implementation notes

The elementary power function is a parameter.  What is assumed of it is `Elementary.StandardPower`,
the standard's special cases for finite operands, and nothing about the values in between or about the
sign of an infinite result.
-/

namespace Reckoner

open Binary64 (zero nan finite infinite ofNat)

/-- What the standard allows as the power of two finite numbers: a zero is raised to a finite number
or, if the exponent is negative, to an infinite one; a negative number has no power with an exponent
that is no integer; any other power is a number. -/
inductive AllowedPower (base exponent : Binary64) : Binary64 → Prop
  | ofZero {result : Binary64} : base.eq zero = true → exponent.lt zero = false →
      result.isFinite = true → AllowedPower base exponent result
  | pole (negative : Bool) : base.eq zero = true → exponent.lt zero = true →
      AllowedPower base exponent (infinite negative)
  | notReal : base.lt zero = true → (∀ n : ℤ, exponent.value ≠ n) → AllowedPower base exponent nan
  | number {result : Binary64} : base.eq zero = false →
      (zero.lt base = true ∨ ∃ n : ℤ, exponent.value = n) → result.isNaN = false →
      AllowedPower base exponent result

/-- The power function keeps to the standard for finite operands. -/
def Elementary.StandardPower (f : Elementary) : Prop :=
  ∀ base exponent, base.isFinite = true → exponent.isFinite = true →
    AllowedPower base exponent (f.pow base exponent)

/-- The base has no real power with the exponent, for the given reason; an infinite number counts as a
negative or a positive one. -/
inductive LacksPower (base exponent : Binary64) : DomainError → Prop
  | zero : base.eq zero = true → exponent.lt zero = true →
      LacksPower base exponent .zeroToNegativePower
  | negative : base.lt zero = true → exponent.isFinite = true →
      (∀ n : ℤ, exponent.value ≠ n) → LacksPower base exponent (.powerNotReal base exponent)

variable {f : Elementary} {base exponent : Binary64} {cause : DomainError}

/-- Only numbers are said to lack a power. -/
theorem LacksPower.real (lacks : LacksPower base exponent cause) :
    base.isNaN = false ∧ exponent.isNaN = false := by
  cases lacks with
  | zero isZero negative =>
      exact ⟨Binary64.isNaN_of_isFinite (Binary64.isFinite_of_eq_zero isZero),
        (Binary64.real_of_lt negative).1⟩
  | negative negative bounded =>
      exact ⟨(Binary64.real_of_lt negative).1, Binary64.isNaN_of_isFinite bounded⟩

namespace AllowedPower

variable {result : Binary64}

/-- A zero is raised to a negative power at a pole only. -/
theorem exists_eq_infinite (allowed : AllowedPower base exponent result)
    (isZero : base.eq zero = true) (negative : exponent.lt zero = true) :
    ∃ negative', result = infinite negative' := by
  cases allowed with
  | ofZero _ nonneg => cases nonneg.symm.trans negative
  | pole negative' => exact ⟨negative', rfl⟩
  | notReal below => cases (Binary64.not_eq_of_lt below).symm.trans isZero
  | number nonzero => cases nonzero.symm.trans isZero

/-- A negative number is raised to no power between two integers. -/
theorem eq_nan (allowed : AllowedPower base exponent result) (negative : base.lt zero = true)
    (fractional : ∀ n : ℤ, exponent.value ≠ n) : result = nan := by
  have nonzero := Binary64.not_eq_of_lt negative
  cases allowed with
  | ofZero isZero => cases nonzero.symm.trans isZero
  | pole _ isZero => cases nonzero.symm.trans isZero
  | notReal => rfl
  | number _ within =>
      rcases within with positive | ⟨n, integer⟩
      · cases (Binary64.lt_asymm negative).symm.trans positive
      · exact absurd integer (fractional n)

theorem lacksPower_of_nan (allowed : AllowedPower base exponent nan)
    (bounded : exponent.isFinite = true) :
    LacksPower base exponent (.powerNotReal base exponent) := by
  cases allowed with
  | ofZero _ _ finite => cases finite
  | notReal negative fractional => exact .negative negative bounded fractional
  | number _ _ real => cases real

theorem lacksPower_of_infinite {negative : Bool}
    (allowed : AllowedPower base exponent (infinite negative)) (isZero : base.eq zero = true) :
    LacksPower base exponent .zeroToNegativePower := by
  cases allowed with
  | ofZero _ _ finite => cases finite
  | pole _ _ below => exact .zero isZero below
  | number nonzero => cases nonzero.symm.trans isZero

end AllowedPower

section Results

variable (bounded : base.isFinite = true) (bounded' : exponent.isFinite = true)
include bounded bounded'

theorem power_of_nan (result : f.pow base exponent = nan) : power f base exponent =
    .error (if base.eq zero then .zeroToNegativePower else .powerNotReal base exponent) := by
  unfold power
  rw [bounded, bounded', result]
  rfl

theorem power_of_infinite {negative : Bool} (result : f.pow base exponent = infinite negative) :
    power f base exponent =
      if base.eq zero then .error .zeroToNegativePower
      else .ok (infinite (base.lt zero &&
        (exponent.isInteger && (exponent % ofNat 2).eq (ofNat 1)))) := by
  unfold power
  rw [bounded, bounded', result]
  rfl

theorem power_of_finite {negative : Bool} {magnitude : Magnitude}
    (result : f.pow base exponent = finite negative magnitude) :
    power f base exponent = .ok (finite negative magnitude) := by
  unfold power
  rw [bounded, bounded', result]
  rfl

/-- A power beyond the finite numbers is negative exactly where the exact power is. -/
theorem exists_power_of_overflow {negative : Bool} (nonzero : base.eq zero = false)
    (result : f.pow base exponent = infinite negative) :
    ∃ negative', power f base exponent = .ok (infinite negative') ∧
      (negative' = true ↔ base.lt zero = true ∧ ∃ n : ℤ, Odd n ∧ exponent.value = n) := by
  rw [power_of_infinite bounded bounded' result, nonzero, if_neg Bool.false_ne_true]
  refine ⟨_, rfl, ?_⟩
  cases exponent with
  | nan => cases bounded'
  | infinite s => cases bounded'
  | finite s a => rw [Bool.and_eq_true, Binary64.isInteger_and_mod_two_iff]

end Results

section Domain

variable (standard : f.StandardPower) (bounded : base.isFinite = true)
  (bounded' : exponent.isFinite = true)
include standard bounded bounded'

/-- Where there is no real power of finite numbers, the reason is reported. -/
theorem power_of_lacksPower (lacks : LacksPower base exponent cause) :
    power f base exponent = .error cause := by
  have allowed := standard base exponent bounded bounded'
  cases lacks with
  | zero isZero negative =>
      obtain ⟨_, result⟩ := allowed.exists_eq_infinite isZero negative
      rw [power_of_infinite bounded bounded' result, if_pos isZero]
  | negative negative _ fractional =>
      have result := allowed.eq_nan negative fractional
      rw [power_of_nan bounded bounded' result, Binary64.not_eq_of_lt negative,
        if_neg Bool.false_ne_true]

/-- Every other power of finite numbers is a number. -/
theorem exists_power (possible : ∀ cause, ¬LacksPower base exponent cause) :
    ∃ x, power f base exponent = .ok x ∧ x.isNaN = false := by
  have allowed := standard base exponent bounded bounded'
  cases result : f.pow base exponent with
  | nan =>
      rw [result] at allowed
      exact absurd (allowed.lacksPower_of_nan bounded') (possible _)
  | infinite s =>
      rw [result] at allowed
      have nonzero : base.eq zero ≠ true := fun isZero =>
        possible _ (allowed.lacksPower_of_infinite isZero)
      rw [power_of_infinite bounded bounded' result, if_neg nonzero]
      exact ⟨_, rfl, rfl⟩
  | finite s a => exact ⟨_, power_of_finite bounded bounded' result, rfl⟩

theorem power_eq_error_iff :
    power f base exponent = .error cause ↔ LacksPower base exponent cause := by
  refine ⟨fun failed => ?_, power_of_lacksPower standard bounded bounded'⟩
  by_contra possible
  obtain ⟨x, value, -⟩ := exists_power standard bounded bounded' fun cause' lacks => by
    cases failed.symm.trans (power_of_lacksPower standard bounded bounded' lacks)
    exact possible lacks
  cases failed.symm.trans value

end Domain

section Infinite

/-- With an infinite exponent, a zero has an infinite power although it lacks negative ones. -/
theorem limitPower_of_zero (isZero : base.eq zero = true) :
    limitPower base (infinite true) = infinite false := by
  cases base with
  | nan => cases isZero
  | infinite s => cases Binary64.isFinite_of_eq_zero isZero
  | finite s a =>
      cases (Magnitude.eq_of_rank_eq (Binary64.eq_zero_iff.1 isZero) : a = .zero)
      cases s <;> decide +kernel

/-- The negative infinity has a power for an exponent that is no integer, although it lacks a real
one: that of the positive infinity. -/
theorem limitPower_of_fractional (bounded : exponent.isFinite = true)
    (fractional : ∀ n : ℤ, exponent.value ≠ n) :
    limitPower (infinite true) exponent = if exponent.lt zero then zero else infinite false := by
  obtain ⟨notInteger, nonzero⟩ := Binary64.not_isInteger_of_fractional bounded fractional
  have real := Binary64.isNaN_of_isFinite bounded
  have even : exponent.isOddInteger = false := by
    by_contra odd
    cases notInteger.symm.trans (Binary64.isInteger_of_isOddInteger (Bool.not_eq_false _ ▸ odd))
  have unbounded : (infinite true).isNaN = false ∧ (infinite true).isInfinite = true ∧
      (infinite true).abs = infinite false := ⟨rfl, rfl, rfl⟩
  have power : limitPower (infinite true) exponent =
      if zero.lt exponent then infinite false else zero := by
    simp only [limitPower, nonzero, real, even, unbounded, Bool.and_false, Bool.false_eq_true,
      if_true, if_false]
    rfl
  rw [power]
  rcases Binary64.lt_or_lt real rfl nonzero with negative | positive
  · rw [negative, Binary64.lt_asymm negative]
    rfl
  · rw [positive, Binary64.lt_asymm positive]
    rfl

/-- With an infinite operand there is a power even where a real one is lacking. -/
theorem power_of_lacksPower_of_infinite (lacks : LacksPower base exponent cause)
    (unbounded : (base.isFinite && exponent.isFinite) = false) :
    power f base exponent =
      .ok (if base.isInfinite && exponent.lt zero then zero else infinite false) := by
  unfold power
  rw [unbounded, if_neg Bool.false_ne_true]
  cases lacks with
  | zero isZero negative =>
      have bounded := Binary64.isFinite_of_eq_zero isZero
      rw [bounded, Bool.true_and] at unbounded
      have notInfinite : base.isInfinite = false := by
        cases base with
        | infinite s => cases bounded
        | _ => rfl
      rw [Binary64.eq_infinite_of_lt_zero negative unbounded, limitPower_of_zero isZero, notInfinite]
      rfl
  | negative negative bounded' fractional =>
      rw [bounded', Bool.and_true] at unbounded
      rw [Binary64.eq_infinite_of_lt_zero negative unbounded,
        limitPower_of_fractional bounded' fractional]
      rfl

end Infinite

section Numbers

/-- A power with an operand that is not finite is a number if the operands are. -/
theorem isNaN_limitPower (real : base.isNaN = false) (real' : exponent.isNaN = false) :
    (limitPower base exponent).isNaN = false := by
  unfold limitPower
  rw [real, real']
  split
  · exact Binary64.isNaN_ofRatio
  · rw [if_neg Bool.false_ne_true, if_neg Bool.false_ne_true]
    split
    · split
      · split
        · exact real
        · cases base <;> first | rfl | cases real
      · rfl
    · split
      · exact Binary64.isNaN_ofRatio
      · split <;> rfl

/-- A power of numbers is a number. -/
theorem ensures_power (real : base.isNaN = false) (real' : exponent.isNaN = false) :
    Ensures (·.isNaN = false) (fun _ => True) (power f base exponent) := by
  by_cases bounded : base.isFinite = true ∧ exponent.isFinite = true
  · obtain ⟨bounded, bounded'⟩ := bounded
    cases result : f.pow base exponent with
    | nan =>
        rw [power_of_nan bounded bounded' result]
        trivial
    | infinite negative =>
        rw [power_of_infinite bounded bounded' result]
        split
        · trivial
        · rfl
    | finite negative magnitude =>
        rw [power_of_finite bounded bounded' result]
        rfl
  · unfold power
    rw [if_neg (by rwa [Bool.and_eq_true])]
    exact isNaN_limitPower real real'

end Numbers

/-- A power of finite numbers fails exactly where there is no real power, for this reason, and every
other one is a number.  A power beyond the finite numbers is negative exactly if the base is negative
and the exponent is odd. -/
theorem power_domain (f : Elementary) (standard : f.StandardPower) (base exponent : Binary64)
    (bounded : base.isFinite = true) (bounded' : exponent.isFinite = true) :
    (∀ cause, power f base exponent = .error cause ↔ LacksPower base exponent cause) ∧
    ((∀ cause, ¬LacksPower base exponent cause) →
      ∃ x, power f base exponent = .ok x ∧ x.isNaN = false) ∧
    ∀ negative, base.eq zero = false → f.pow base exponent = infinite negative →
      ∃ negative', power f base exponent = .ok (infinite negative') ∧
        (negative' = true ↔ base.lt zero = true ∧ ∃ n : ℤ, Odd n ∧ exponent.value = n) :=
  ⟨fun _ => power_eq_error_iff standard bounded bounded', exists_power standard bounded bounded',
    fun _ nonzero => exists_power_of_overflow bounded bounded' nonzero⟩

section Extreme

/-- A power function that keeps to the standard and takes every power to be beyond the finite numbers
that is neither excluded nor the power of a zero. -/
def extremePower (base exponent : Binary64) : Binary64 :=
  if base.eq zero then
    if exponent.lt zero then infinite false else if exponent.eq zero then ofNat 1 else zero
  else if base.lt zero && !exponent.isInteger then nan
  else infinite (base.lt zero && exponent.isOddInteger)

/-- Elementary functions with this power function; the others are taken to be the identity. -/
def Elementary.extreme : Elementary := ⟨id, id, id, id, id, id, extremePower⟩

theorem standardPower_extreme : Elementary.extreme.StandardPower := by
  intro base exponent bounded bounded'
  show AllowedPower base exponent (extremePower base exponent)
  unfold extremePower
  split
  case isTrue isZero =>
    split
    case isTrue negative => exact .pole _ isZero negative
    case isFalse nonneg =>
      refine .ofZero isZero (Bool.eq_false_iff.2 nonneg) ?_
      split
      · decide +kernel
      · rfl
  case isFalse nonzero =>
    have nonzero := Bool.eq_false_iff.2 nonzero
    have integer_iff : exponent.isInteger = true ↔ ∃ n : ℤ, exponent.value = n := by
      cases exponent with
      | finite s a => exact Binary64.isInteger_iff_value
      | _ => cases bounded'
    split
    case isTrue excluded =>
      rw [Bool.and_eq_true, Bool.not_eq_true', ← Bool.not_eq_true, integer_iff, not_exists] at excluded
      exact .notReal excluded.1 excluded.2
    case isFalse possible =>
      refine .number nonzero ?_ rfl
      rw [Bool.and_eq_true, not_and, Bool.not_eq_true', ← Bool.not_eq_true, not_not] at possible
      rcases Binary64.lt_or_lt (Binary64.isNaN_of_isFinite bounded) rfl nonzero with less | greater
      · exact .inr (integer_iff.1 (possible less))
      · exact .inl greater

/-- A small negative number raised to a great negative odd power. -/
theorem power_domain_overflow :
    Elementary.extreme.StandardPower ∧
    (Decimal.toBinary64 true ⟨5, -1⟩).isFinite = true ∧
    (Decimal.toBinary64 true ⟨9007199254740991, 0⟩).isFinite = true ∧
    (∀ cause, ¬LacksPower (Decimal.toBinary64 true ⟨5, -1⟩)
      (Decimal.toBinary64 true ⟨9007199254740991, 0⟩) cause) ∧
    Elementary.extreme.pow (Decimal.toBinary64 true ⟨5, -1⟩)
      (Decimal.toBinary64 true ⟨9007199254740991, 0⟩) = infinite true ∧
    power .extreme (Decimal.toBinary64 true ⟨5, -1⟩)
      (Decimal.toBinary64 true ⟨9007199254740991, 0⟩) = .ok (infinite true) ∧
    ∃ n : ℤ, Odd n ∧ (Decimal.toBinary64 true ⟨9007199254740991, 0⟩).value = n := by
  have bounded : (Decimal.toBinary64 true ⟨5, -1⟩).isFinite = true := by decide +kernel
  have bounded' : (Decimal.toBinary64 true ⟨9007199254740991, 0⟩).isFinite = true := by
    decide +kernel
  have nonzero : (Decimal.toBinary64 true ⟨5, -1⟩).eq zero = false := by decide +kernel
  have result : Elementary.extreme.pow (Decimal.toBinary64 true ⟨5, -1⟩)
      (Decimal.toBinary64 true ⟨9007199254740991, 0⟩) = infinite true := by decide +kernel
  have value : power .extreme (Decimal.toBinary64 true ⟨5, -1⟩)
      (Decimal.toBinary64 true ⟨9007199254740991, 0⟩) = .ok (infinite true) := by decide +kernel
  obtain ⟨fails, -, overflow⟩ := power_domain .extreme standardPower_extreme _ _ bounded bounded'
  obtain ⟨negative, value', sign⟩ := overflow _ nonzero result
  cases value'.symm.trans value
  refine ⟨standardPower_extreme, bounded, bounded', fun cause lacks => ?_, result, value,
    (sign.1 rfl).2⟩
  cases ((fails cause).2 lacks).symm.trans value

end Extreme

end Reckoner
