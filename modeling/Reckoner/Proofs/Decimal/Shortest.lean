import Reckoner.Decimal.Shortest
import Reckoner.Proofs.Decimal.Significant

/-!
# Shortest decimals read back

Seventeen significant digits are enough for every magnitude, so that the shortest decimal of a
magnitude reads as the magnitude again.
-/

namespace Reckoner.Decimal

variable {magnitude : Magnitude}

/-- The unit of the last of seventeen digits is less than the gap below a rank. -/
theorem lastUnit_lt_gapAt (k : Nat) : lastUnit enoughPlaces (valueAt (k + 1)) < gapAt k := by
  have positive : 0 < valueAt (k + 1) := valueAt_zero ▸ strictMono_valueAt k.succ_pos
  have least : 1 ≤ enoughPlaces := by decide
  have reached := ((log_eq_iff positive).1 rfl).1
  have far := valueAt_succ_le k
  have size : (binade : ℚ) = 4503599627370496 := by norm_num [binade]
  rw [pow_eq_mul_lastUnit least positive rfl, show enoughPlaces - 1 = 16 from rfl] at reached
  rw [size] at far
  push_cast at reached
  linarith [gapAt_pos k]

/-- The nearest decimal of seventeen digits reads as the magnitude. -/
theorem readsAs_nearest (nonzero : magnitude.rank ≠ 0) :
    readsAs magnitude (ofRatio enoughPlaces magnitude.units unitsPerOne) = true := by
  have value : (ofRatio enoughPlaces magnitude.units unitsPerOne).value =
      roundedTo enoughPlaces magnitude.value :=
    value_ofRatio (Nat.pos_of_ne_zero (magnitude.units_eq_zero_iff.not.2 nonzero)) unitsPerOne_pos
  have near := abs_sub_roundedTo_le enoughPlaces magnitude.value
  obtain ⟨k, rank⟩ : ∃ k, magnitude.rank = k + 1 := Nat.exists_eq_succ_of_ne_zero nonzero
  have fine := lastUnit_lt_gapAt k
  have wider := gapAt_le_gapAt_succ k
  have step := valueAt_succ k
  rw [← value, Magnitude.value, rank, abs_le] at near
  exact beq_iff_eq.2 ((rank_eq_succ (by linarith) (by linarith)).trans rank.symm)

theorem readsAs_of_withPlaces? {places : Nat} {decimal : Decimal}
    (h : withPlaces? magnitude places = some decimal) : readsAs magnitude decimal = true :=
  List.find?_some h

theorem withPlaces?_enoughPlaces (nonzero : magnitude.rank ≠ 0) :
    withPlaces? magnitude enoughPlaces =
      some (ofRatio enoughPlaces magnitude.units unitsPerOne) :=
  List.find?_cons_of_pos (readsAs_nearest nonzero)

/-- The shortest decimal of a magnitude other than zero reads as the magnitude. -/
theorem rank_shortest (nonzero : magnitude.rank ≠ 0) :
    (shortest magnitude).rank = magnitude.rank := by
  rw [shortest, if_neg nonzero]
  cases found : (List.range' 1 enoughPlaces).findSome? (withPlaces? magnitude) with
  | none =>
      have missing := List.findSome?_eq_none_iff.1 found enoughPlaces (by decide)
      rw [withPlaces?_enoughPlaces nonzero] at missing
      cases missing
  | some decimal =>
      obtain ⟨places, -, taken⟩ := List.exists_of_findSome?_eq_some found
      exact beq_iff_eq.1 (readsAs_of_withPlaces? taken)

/-- The shortest decimal of a magnitude other than zero is not zero. -/
theorem coefficient_shortest_ne_zero (nonzero : magnitude.rank ≠ 0) :
    (shortest magnitude).coefficient ≠ 0 := by
  intro zero
  have read := rank_shortest nonzero
  rw [rank, numerator, zero, Nat.zero_mul, Nat.zero_mul] at read
  have positive := (shortest magnitude).denominator_pos
  rw [← read] at nonzero
  simp [nearestRank, roundHalfEven, positive] at nonzero

end Reckoner.Decimal
