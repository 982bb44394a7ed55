import Reckoner.Proofs.Expr.Guards

/-!
# The factorial of a number

A number within the tolerance of an integer has the factorial of this integer, correctly rounded, and
any other number has none.  The two limits of the computation do not show: the difference that is
compared with the tolerance is exact, and the factorials that are not computed are beyond the finite
numbers.
-/

namespace Reckoner

open Binary64 (finite infinite overflowPoint Rounds)

variable {settings : Settings} {x t : Binary64}

section Tolerances

theorem toleranceEnd_eq :
    Settings.toleranceEnd = finite false ⟨0x3fe0000000000000, by decide⟩ := by
  decide +kernel

theorem value_toleranceEnd : Settings.toleranceEnd.value = 1 / 2 := by
  have units : unitsAt 0x3fe0000000000000 * 2 = unitsPerOne := by decide +kernel
  rw [toleranceEnd_eq, Binary64.value_positive, Magnitude.value, valueAt,
    div_eq_div_iff cast_unitsPerOne_pos.ne' two_ne_zero, one_mul, ← units, Nat.cast_mul,
    Nat.cast_ofNat]

/-- Tolerances are finite and less than one half. -/
theorem exists_tolerance (least : Binary64.zero.le t = true)
    (most : t.lt Settings.toleranceEnd = true) :
    ∃ s a, t = finite s a ∧ t.value < 1 / 2 := by
  rw [← value_toleranceEnd]
  rw [toleranceEnd_eq] at most ⊢
  cases t with
  | nan => cases least
  | infinite negative =>
      cases negative
      · exact absurd most (by decide)
      · exact absurd least (by decide)
  | finite s a => exact ⟨s, a, rfl, Binary64.lt_finite_iff.1 most⟩

end Tolerances

namespace Builtin

/-- Leaving out the large factorials changes no result. -/
theorem ok_factorial {n : ℤ} (nonneg : 0 ≤ n) :
    (if greatestFactorial < n then .ok (infinite false) else .ok (.ofNat n.toNat.factorial)) =
      (.ok (.ofNat n.toNat.factorial) : Evaluated Binary64) := by
  split
  case isTrue large =>
    rw [← Int.toNat_of_nonneg nonneg, ← overflowPoint_le_factorial_iff] at large
    rw [(Binary64.rounds_ofNat _).eq_infinite large]
  case isFalse => rfl

/-- What the factorial of a number is, in exact arithmetic. -/
theorem factorialOf_eq (least : Binary64.zero.le settings.integerTolerance = true)
    (most : settings.integerTolerance.lt Settings.toleranceEnd = true)
    (bounded : x.isFinite = true) (nonneg : Binary64.zero.le x = true) :
    factorialOf settings x =
      if settings.integerTolerance.value < |x.value - halfEven x.value| then
        outsideDomain (.fractionalFactorial x)
      else .ok (Binary64.ofNat (halfEven x.value).toNat.factorial) := by
  obtain ⟨s, a, tolerance, -⟩ := exists_tolerance least most
  cases x with
  | nan => cases bounded
  | infinite negative => cases bounded
  | finite s' b =>
      obtain ⟨d, difference, distance⟩ := Binary64.exists_distance_eq s' b
      have sign : 0 ≤ halfEven (finite s' b).value :=
        le_halfEven (Binary64.value_nonneg_iff.1 nonneg)
      rw [factorialOf_eq_match, Binary64.lt_eq_not_le rfl rfl, nonneg,
        Binary64.nearestInteger?_finite]
      dsimp only
      rw [difference, ← distance, tolerance, ok_factorial sign]
      simp only [Binary64.lt_finite_iff]
      rfl

/-- The factorial is exact: it exists for the numbers within the tolerance of an integer, which is
then the nearest one, and is the factorial of this integer correctly rounded. -/
theorem factorialOf_exact (settings : Settings)
    (least : Binary64.zero.le settings.integerTolerance = true)
    (most : settings.integerTolerance.lt Settings.toleranceEnd = true) (x : Binary64)
    (bounded : x.isFinite = true) (nonneg : Binary64.zero.le x = true) :
    ((∃ y, factorialOf settings x = .ok y) ↔
      ∃ n : ℤ, |x.value - n| ≤ settings.integerTolerance.value) ∧
    (∀ n : ℤ, |x.value - n| ≤ settings.integerTolerance.value → x.nearestInteger? = some n ∧
      ∃ (k : ℕ) (y : Binary64), n = k ∧ factorialOf settings x = .ok y ∧ Rounds k.factorial y) ∧
    ((∀ n : ℤ, settings.integerTolerance.value < |x.value - n|) →
      factorialOf settings x = outsideDomain (.fractionalFactorial x)) := by
  have result := factorialOf_eq least most bounded nonneg
  obtain ⟨s, a, -, half⟩ := exists_tolerance least most
  have nearest {n : ℤ} (near : |x.value - n| ≤ settings.integerTolerance.value) :
      halfEven x.value = n := by
    have less := near.trans_lt half
    exact halfEven_eq_iff.2 ⟨less.le, fun tie => absurd tie less.ne⟩
  refine ⟨⟨fun ⟨y, success⟩ => ?_, fun ⟨n, near⟩ => ?_⟩, fun n near => ?_, fun far => ?_⟩
  · refine ⟨halfEven x.value, not_lt.1 fun far => ?_⟩
    rw [if_pos far] at result
    cases result.symm.trans success
  · have same := nearest near
    rw [same, if_neg (not_lt.2 near)] at result
    exact ⟨_, result⟩
  · have same := nearest near
    rw [same, if_neg (not_lt.2 near)] at result
    cases x with
    | nan => cases bounded
    | infinite negative => cases bounded
    | finite s b =>
        have sign : 0 ≤ n := same ▸ le_halfEven (Binary64.value_nonneg_iff.1 nonneg)
        exact ⟨same ▸ Binary64.nearestInteger?_finite s b, n.toNat, _,
          (Int.toNat_of_nonneg sign).symm, result, Binary64.rounds_ofNat _⟩
  · rw [if_pos (far _)] at result
    exact result

/-- Close enough to the least integer whose factorial is infinite. -/
theorem factorialOf_exact_overflow :
    Binary64.zero.le Settings.default.integerTolerance = true ∧
    Settings.default.integerTolerance.lt Settings.toleranceEnd = true ∧
    (Decimal.toBinary64 false ⟨1709999999999, -10⟩).isFinite = true ∧
    Binary64.zero.le (Decimal.toBinary64 false ⟨1709999999999, -10⟩) = true ∧
    factorialOf Settings.default (Decimal.toBinary64 false ⟨1709999999999, -10⟩) =
      .ok (infinite false) ∧
    |(Decimal.toBinary64 false ⟨1709999999999, -10⟩).value - (171 : ℤ)| ≤
      Settings.default.integerTolerance.value ∧
    Rounds (Nat.factorial 171) (infinite false) := by
  have least : Binary64.zero.le Settings.default.integerTolerance = true := by decide +kernel
  have most : Settings.default.integerTolerance.lt Settings.toleranceEnd = true := by decide +kernel
  have bounded : (Decimal.toBinary64 false ⟨1709999999999, -10⟩).isFinite = true := by decide +kernel
  have nonneg : Binary64.zero.le (Decimal.toBinary64 false ⟨1709999999999, -10⟩) = true := by
    decide +kernel
  have success : factorialOf Settings.default (Decimal.toBinary64 false ⟨1709999999999, -10⟩) =
      .ok (infinite false) := by decide +kernel
  have nearest : (Decimal.toBinary64 false ⟨1709999999999, -10⟩).nearestInteger? = some 171 := by
    decide +kernel
  obtain ⟨exists_iff, exact, -⟩ := factorialOf_exact _ least most _ bounded nonneg
  obtain ⟨n, near⟩ := exists_iff.1 ⟨_, success⟩
  obtain ⟨same, k, y, whole, success', rounds⟩ := exact n near
  cases same.symm.trans nearest
  cases success'.symm.trans success
  cases Int.ofNat_inj.1 whole
  exact ⟨least, most, bounded, nonneg, success, near, rounds⟩

end Builtin

end Reckoner
