import Reckoner.Answer
import Reckoner.Proofs.Decimal.FewDigits

/-!
# Answers with a precision

An answer with up to fifteen significant digits shows exactly the value rounded once, or an infinity
if the rounded value is beyond the finite numbers.  Whatever number of digits is asked for, an
answer that is read as a number and shown again is the same answer.

## Implementation notes

The rounded value is read as a number before it is shown, so that two roundings, to a decimal grid
and to the binary one, stand between the value and its text.
-/

namespace Reckoner.Answer

open Binary64 (leastNormal overflowPoint)
open Decimal (exactValue? readNumber? significant withSign)

variable {magnitude : Magnitude} {negative : Bool} {places : Nat}

section Text

theorem places_natCast (most : places ≤ greatestPlaces) :
    Answer.places (places : Int) = .ok places := by
  have readable : greatestPlaces ≤ greatestReadablePlaces := by decide
  rw [Answer.places, if_neg (by omega), if_neg (by omega), if_neg (by omega), Int.toNat_natCast]

/-- Without a precision, the text of the number is shown. -/
theorem text_none {x : Binary64} (real : x.isNaN = false) : text none x = .ok (numberText x) := by
  cases x with
  | nan => cases real
  | infinite negative => rfl
  | finite negative magnitude => rfl

/-- A finite number is shown as the number that its rounded value is read as. -/
theorem text_finite (most : places ≤ greatestPlaces) (negative : Bool) (magnitude : Magnitude) :
    text (some (places : Int)) (.finite negative magnitude) =
      .ok (numberText (.ofRank negative (significant places magnitude).rank)) := by
  have nearest : rounded places (.finite negative magnitude) = _ :=
    (significant places magnitude).toBinary64_eq negative
  rw [text, places_natCast most, ← nearest]
  rfl

/-- Zero is rounded to zero. -/
theorem rank_significant_zero (zero : magnitude.rank = 0) :
    (significant places magnitude).rank = 0 := by
  rw [significant, if_pos zero]
  exact Binary64.rank_zero

end Text

section Again

/-- The name of an infinity is read as the infinity. -/
theorem readNumber?_infinite (negative : Bool) :
    readNumber? (numberText (.infinite negative)) = some (.infinite negative) := by
  cases negative <;> decide +kernel

/-- What is shown for a finite number with a precision is read as a number that is shown alike. -/
theorem text_again_finite (most : places ≤ greatestPlaces) (negative : Bool) {read : Magnitude}
    (same : read.rank = (significant places magnitude).rank) :
    ∃ w, readNumber? (numberText (.finite negative read)) = some w ∧
      text (some (places : Int)) w = .ok (numberText (.finite negative read)) := by
  have written (negative : Bool) :
      numberText (.finite negative read) = (Binary64.finite negative read).plainText := rfl
  have again : (significant places read).rank = read.rank := by
    by_cases zero : magnitude.rank = 0
    · rw [rank_significant_zero zero] at same
      rw [rank_significant_zero same, same]
    · exact Decimal.rank_significant_of_rank zero same
  have shown (negative : Bool) : text (some (places : Int)) (.finite negative read) =
      .ok (numberText (.finite negative read)) := by
    rw [text_finite most, again, Binary64.ofRank, dif_pos read.rank_lt]
  by_cases zero : read.rank = 0
  · -- Both zeros are written as the positive one.
    refine ⟨.finite false read, ?_, ?_⟩
    · rw [written, Binary64.plainText_zero zero]
      cases (Magnitude.eq_of_rank_eq zero : read = .zero)
      decide +kernel
    · rw [shown, written, written, Binary64.plainText_zero zero, Binary64.plainText_zero zero]
  · exact ⟨_, Binary64.readNumber?_plainText_finite zero negative, shown negative⟩

/-- An answer with a precision is read as a number for which the same answer is shown. -/
theorem text_again (places : Nat) (most : places ≤ greatestPlaces) (x : Binary64)
    (real : x.isNaN = false) :
    ∃ shown w, text (some (places : Int)) x = .ok shown ∧ readNumber? shown = some w ∧
      text (some (places : Int)) w = .ok shown := by
  cases x with
  | nan => cases real
  | infinite negative =>
      exact ⟨_, .infinite negative, rfl, readNumber?_infinite negative, rfl⟩
  | finite negative magnitude =>
      have shown := text_finite most negative magnitude
      rw [Binary64.ofRank] at shown
      by_cases inside : (significant places magnitude).rank < magnitudeCount
      · rw [dif_pos inside] at shown
        obtain ⟨w, read, again⟩ := text_again_finite most negative
          (show (⟨_, inside⟩ : Magnitude).rank = (significant places magnitude).rank from rfl)
        exact ⟨_, w, shown, read, again⟩
      · rw [dif_neg inside] at shown
        exact ⟨_, .infinite negative, shown, readNumber?_infinite negative, rfl⟩

/-- The number nearest to `10 ^ 23` lies below it and is rounded to sixteen digits below it too. -/
theorem text_again_below_power :
    (16 : Nat) ≤ greatestPlaces ∧ (Decimal.toBinary64 false ⟨1, 23⟩).isNaN = false ∧
      significant 16 ⟨0x44b52d02c7e14af6, by decide⟩ = ⟨9999999999999999, 7⟩ ∧
      text (some 16) (Decimal.toBinary64 false ⟨1, 23⟩) = .ok "1e+23" ∧
      ∃ w, readNumber? "1e+23" = some w ∧ text (some 16) w = .ok "1e+23" := by
  have real : (Decimal.toBinary64 false ⟨1, 23⟩).isNaN = false := by decide +kernel
  have below : significant 16 ⟨0x44b52d02c7e14af6, by decide⟩ = ⟨9999999999999999, 7⟩ := by
    decide +kernel
  have written : text (some 16) (Decimal.toBinary64 false ⟨1, 23⟩) = .ok "1e+23" := by
    decide +kernel
  obtain ⟨shown, w, same, read, again⟩ := text_again 16 (by decide) _ real
  cases written.symm.trans same
  exact ⟨by decide, real, below, written, w, read, again⟩

end Again

section Exact

theorem abs_withSign (negative : Bool) (v : ℚ) : |withSign negative v| = |v| := by
  cases negative with
  | false => rfl
  | true => exact abs_neg v

theorem roundedTo_withSign (negative : Bool) (v : ℚ) :
    roundedTo places (withSign negative v) = withSign negative (roundedTo places v) := by
  cases negative with
  | false => rfl
  | true => exact roundedTo_neg

/-- A number that is zero or at least the least normal one has such a rank. -/
theorem rank_of_normal {negative : Bool}
    (normal : (Binary64.finite negative magnitude).value = 0 ∨
      leastNormal ≤ |(Binary64.finite negative magnitude).value|) :
    magnitude.rank = 0 ∨ binade ≤ magnitude.rank := by
  rw [← abs_eq_zero, Binary64.value, abs_withSign] at normal
  by_cases zero : magnitude.rank = 0
  · exact .inl zero
  · have positive := Magnitude.value_pos zero
    rw [abs_of_pos positive, ← Decimal.valueAt_binade] at normal
    exact .inr (strictMono_valueAt.le_iff_le.1 (normal.resolve_left positive.ne'))

/-- A text shows a value: as an infinity exactly if the value is so far out that it cannot be read as
a finite number, and else as a numeral of exactly this value. -/
structure Shows (shown : String) (v : ℚ) : Prop where
  /-- The values that are shown as the positive infinity. -/
  positive : shown = "Infinity" ↔ overflowPoint ≤ v
  /-- The values that are shown as the negative infinity. -/
  negative : shown = "-Infinity" ↔ v ≤ -overflowPoint
  /-- No other value is changed. -/
  exact : |v| < overflowPoint → exactValue? shown = some v

theorem shows_infinite (negative : Bool) {v : ℚ} (beyond : overflowPoint ≤ v) :
    Shows (numberText (.infinite negative)) (withSign negative v) := by
  have positive := Decimal.overflowPoint_pos
  have far : ¬|withSign negative v| < overflowPoint := by
    rw [abs_withSign]
    exact not_lt.2 (beyond.trans (le_abs_self v))
  cases negative with
  | false =>
      refine ⟨iff_of_true rfl beyond, iff_of_false (by decide) ?_, fun below => absurd below far⟩
      change ¬v ≤ -overflowPoint
      linarith
  | true =>
      refine ⟨iff_of_false (by decide) ?_, iff_of_true rfl (neg_le_neg beyond),
        fun below => absurd below far⟩
      change ¬overflowPoint ≤ -v
      linarith

/-- A text with an exact value names no infinity. -/
theorem shows_of_exact {shown : String} {v : ℚ} (exact : exactValue? shown = some v)
    (inside : |v| < overflowPoint) : Shows shown v := by
  refine ⟨iff_of_false ?_ fun beyond => ?_, iff_of_false ?_ fun beyond => ?_, fun _ => exact⟩
  · rintro rfl
    cases exact
  · linarith [le_abs_self v]
  · rintro rfl
    cases exact
  · linarith [neg_abs_le v]

/-- The text of the number that a rounded value is read as shows the rounded value. -/
theorem exactValue?_of_rounded (few : places ≤ 15)
    (normal : magnitude.rank = 0 ∨ binade ≤ magnitude.rank) {read : Magnitude}
    (same : read.rank = (significant places magnitude).rank) (negative : Bool) :
    exactValue? (numberText (.finite negative read)) =
      some (withSign negative (significant places magnitude).value) := by
  have exact : exactValue? (numberText (.finite negative read)) = _ :=
    Binary64.exactValue?_plainText negative read
  rcases normal with zero | normal
  · rw [rank_significant_zero zero] at same
    rw [exact, Binary64.shownDecimal_zero same, significant, if_pos zero]
  · have nonzero : magnitude.rank ≠ 0 := Nat.ne_of_gt (Nat.lt_of_lt_of_le (by decide) normal)
    rw [exact, Decimal.value_shownDecimal nonzero few normal same]

/-- With up to fifteen significant digits, zero and the normal numbers are shown as their value
rounded once, a tie going to the even digit. -/
theorem text_roundedTo (places : Nat) (least : 1 ≤ places) (few : places ≤ 15) (x : Binary64)
    (finite : x.isFinite = true) (normal : x.value = 0 ∨ leastNormal ≤ |x.value|) :
    ∃ shown, text (some (places : Int)) x = .ok shown ∧ Shows shown (roundedTo places x.value) := by
  cases x with
  | nan => cases finite
  | infinite negative => cases finite
  | finite negative magnitude =>
      have shown := text_finite (few.trans (by decide)) negative magnitude
      have value : (significant places magnitude).value = roundedTo places magnitude.value := by
        rw [Decimal.value_significant, Decimal.countedPlaces, Nat.min_eq_left (by omega),
          Nat.max_eq_right least]
      have beyond := Decimal.magnitudeCount_le_rank_iff (d := significant places magnitude)
      rw [Binary64.ofRank] at shown
      rw [Binary64.value, roundedTo_withSign, ← value]
      by_cases inside : (significant places magnitude).rank < magnitudeCount
      · rw [dif_pos inside] at shown
        refine ⟨_, shown, shows_of_exact ?_ ?_⟩
        · exact exactValue?_of_rounded few (rank_of_normal normal) rfl negative
        · rw [abs_withSign, abs_of_nonneg (Decimal.value_nonneg _)]
          exact not_le.1 (beyond.not.1 (not_le.2 inside))
      · rw [dif_neg inside] at shown
        exact ⟨_, shown, shows_infinite negative (beyond.1 (not_lt.1 inside))⟩

/-- The number `2.5` is shown with one digit as the even `2`. -/
theorem text_roundedTo_tie :
    (Binary64.finite false ⟨0x4004000000000000, by decide⟩).isFinite = true ∧
      leastNormal ≤ |(Binary64.finite false ⟨0x4004000000000000, by decide⟩).value| ∧
      text (some 1) (.finite false ⟨0x4004000000000000, by decide⟩) = .ok "2" ∧
      roundedTo 1 (Binary64.finite false ⟨0x4004000000000000, by decide⟩).value = 2 ∧
      exactValue? "2" = some 2 := by
  have place : valueAt 0x4004000000000000 = 5 / 2 := by
    have units : unitsAt 0x4004000000000000 * 2 = 5 * unitsPerOne := by decide +kernel
    rw [valueAt, div_eq_div_iff cast_unitsPerOne_pos.ne' (by norm_num)]
    exact_mod_cast units
  have value : (Binary64.finite false ⟨0x4004000000000000, by decide⟩).value = 5 / 2 := place
  have normal : leastNormal ≤ |(Binary64.finite false ⟨0x4004000000000000, by decide⟩).value| := by
    rw [value, leastNormal, abs_of_pos (by norm_num)]
    exact (zpow_le_one_of_nonpos₀ (by norm_num) (by decide)).trans (by norm_num)
  have rounded : roundedTo 1 (5 / 2) = 2 := by
    have leading : Int.log 10 (5 / 2 : ℚ) = 0 := (log_eq_iff (by norm_num)).2 (by norm_num)
    have unit : lastUnit 1 (5 / 2) = 1 := by
      rw [lastUnit_eq (by norm_num) leading]
      norm_num
    have even : halfEven (5 / 2) = 2 := halfEven_eq_iff.2 (by norm_num)
    rw [roundedTo, unit, div_one, even]
    norm_num
  have written : text (some 1) (.finite false ⟨0x4004000000000000, by decide⟩) = .ok "2" := by
    decide +kernel
  obtain ⟨shown, same, -, -, exact⟩ := text_roundedTo 1 (by decide) (by decide)
    (.finite false ⟨0x4004000000000000, by decide⟩) rfl (.inr normal)
  cases written.symm.trans same
  rw [value, rounded] at exact
  refine ⟨rfl, normal, written, by rw [value, rounded], exact ?_⟩
  have order : valueAt 0x4004000000000000 ≤ valueAt (magnitudeCount - 1) :=
    strictMono_valueAt.monotone (by decide)
  rw [place] at order
  rw [abs_of_pos (by norm_num), Decimal.overflowPoint_eq]
  linarith [gapAt_pos (magnitudeCount - 1)]

end Exact

end Reckoner.Answer
