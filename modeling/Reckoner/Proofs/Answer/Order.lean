import Mathlib.Order.WithBot
import Reckoner.Proofs.Binary64.Value
import Reckoner.Proofs.Precision

/-!
# Answers keep the order

The answer for a greater value does not denote a smaller number, with a precision and without one.

## Implementation notes

In which forms the two answers are written does not matter.  A magnitude shows a decimal that is read
as the magnitude, and reading keeps the order of decimals, so that showing keeps the order of
magnitudes whatever digits it chooses.
-/

namespace Reckoner

open Binary64 (place?_ofRank infinite_le le_infinite le_cases)
open Decimal (exactValue? significant withSign)

/-- A greater magnitude does not show a smaller decimal. -/
theorem Binary64.value_shownDecimal_le {a b : Magnitude} (order : a.rank ≤ b.rank) :
    (shownDecimal a).value ≤ (shownDecimal b).value := by
  rcases order.eq_or_lt with same | below
  · rw [Magnitude.eq_of_rank_eq same]
  · by_contra greater
    have reversed := Decimal.rank_le_rank (not_le.1 greater).le
    rw [rank_shownDecimal, rank_shownDecimal] at reversed
    exact absurd below (Nat.not_lt.2 reversed)

namespace Answer

variable {x y : Binary64} {places : Nat}

/-- The rational line with an infinity at either end. -/
abbrev ExtendedLine := WithBot (WithTop ℚ)

/-- A rational number on the extended line. -/
def point (v : ℚ) : ExtendedLine := WithBot.some (WithTop.some v)

theorem point_le_point {v v' : ℚ} : point v ≤ point v' ↔ v ≤ v' := by
  rw [point, point, WithBot.coe_le_coe, WithTop.coe_le_coe]

/-- The number that an answer denotes.  The names of the infinities denote the ends of the line. -/
def denoted? (shown : String) : Option ExtendedLine :=
  if shown = "Infinity" then some ⊤
  else if shown = "-Infinity" then some ⊥
  else (exactValue? shown).map point

section Denoted

theorem denoted?_infinite (negative : Bool) :
    denoted? (numberText (.infinite negative)) = some (if negative then ⊥ else ⊤) := by
  cases negative <;> rfl

theorem denoted?_finite (negative : Bool) (magnitude : Magnitude) :
    denoted? (numberText (.finite negative magnitude)) =
      some (point (withSign negative (Binary64.shownDecimal magnitude).value)) := by
  have exact : exactValue? (numberText (.finite negative magnitude)) = _ :=
    Binary64.exactValue?_plainText negative magnitude
  rw [denoted?, if_neg, if_neg, exact, Option.map_some]
  all_goals
    intro name
    rw [name] at exact
    cases exact

/-- The texts of numbers in order denote numbers in the same order. -/
theorem exists_denoted_le (order : x.le y = true) : ∃ v v',
    denoted? (numberText x) = some v ∧ denoted? (numberText y) = some v' ∧ v ≤ v' := by
  have exists_denoted {z : Binary64} (real : z.isNaN = false) :
      ∃ v, denoted? (numberText z) = some v := by
    cases z with
    | nan => cases real
    | infinite negative => exact ⟨_, denoted?_infinite negative⟩
    | finite negative magnitude => exact ⟨_, denoted?_finite negative magnitude⟩
  obtain ⟨real, real'⟩ := Binary64.real_of_le order
  obtain ⟨v, found⟩ := exists_denoted real
  obtain ⟨v', found'⟩ := exists_denoted real'
  refine ⟨v, v', found, found', ?_⟩
  rcases le_cases order with rfl | rfl | ⟨s, a, t, b, rfl, rfl, signed⟩
  · cases (denoted?_infinite true).symm.trans found
    exact bot_le
  · cases (denoted?_infinite false).symm.trans found'
    exact le_top
  · cases (denoted?_finite s a).symm.trans found
    cases (denoted?_finite t b).symm.trans found'
    rw [point_le_point]
    refine signed_le_signed (f := fun m => (Binary64.shownDecimal m).value) ?_
      (fun _ _ => Binary64.value_shownDecimal_le) signed
    rw [Binary64.shownDecimal_zero rfl]
    simp [Decimal.value]

end Denoted

section Rounded

theorem rounded_finite (places : Nat) (negative : Bool) (magnitude : Magnitude) :
    rounded places (.finite negative magnitude) =
      .ofRank negative (significant places magnitude).rank :=
  (significant places magnitude).toBinary64_eq negative

theorem isNaN_rounded (places : Nat) (real : x.isNaN = false) :
    (rounded places x).isNaN = false := by
  cases x with
  | nan => cases real
  | infinite negative => rfl
  | finite negative magnitude => exact rounded_finite places .. ▸ Binary64.isNaN_ofRank

/-- Rounding to significant digits keeps the order. -/
theorem rounded_le_rounded (places : Nat) (order : x.le y = true) :
    (rounded places x).le (rounded places y) = true := by
  obtain ⟨real, real'⟩ := Binary64.real_of_le order
  rcases le_cases order with rfl | rfl | ⟨s, a, t, b, rfl, rfl, signed⟩
  · exact infinite_le (isNaN_rounded places real')
  · exact le_infinite (isNaN_rounded places real)
  · rw [rounded_finite, rounded_finite, Binary64.le, place?_ofRank, place?_ofRank]
    refine decide_eq_true (signed_le_signed
      (f := fun m => ((min (significant places m).rank magnitudeCount : Nat) : ℤ)) ?_ ?_ signed)
    · rw [rank_significant_zero rfl]
      rfl
    · intro a b order
      have ranks := Decimal.rank_le_rank (Decimal.value_significant_le places order)
      exact Int.ofNat_le.2 (min_le_min_right _ ranks)

/-- With a precision, the text of the rounded number is shown. -/
theorem text_some (most : places ≤ greatestPlaces) (real : x.isNaN = false) :
    text (some (places : Int)) x = .ok (numberText (rounded places x)) := by
  cases x with
  | nan => cases real
  | infinite negative => rfl
  | finite negative magnitude => rw [text_finite most, rounded_finite]

end Rounded

/-- The answers for values in order denote numbers in the same order, whatever the precision is. -/
theorem text_mono (precision : Option Int)
    (inRange : ∀ places ∈ precision, 0 ≤ places ∧ places ≤ greatestPlaces) (x y : Binary64)
    (order : x.le y = true) :
    ∃ shown shown' v v', text precision x = .ok shown ∧ text precision y = .ok shown' ∧
      denoted? shown = some v ∧ denoted? shown' = some v' ∧ v ≤ v' := by
  obtain ⟨real, real'⟩ := Binary64.real_of_le order
  cases precision with
  | none =>
      obtain ⟨v, v', found, found', kept⟩ := exists_denoted_le order
      exact ⟨_, _, v, v', text_none real, text_none real', found, found', kept⟩
  | some places =>
      obtain ⟨least, most⟩ := inRange places rfl
      obtain ⟨n, rfl⟩ := Int.eq_ofNat_of_zero_le least
      have few : n ≤ greatestPlaces := by omega
      obtain ⟨v, v', found, found', kept⟩ := exists_denoted_le (rounded_le_rounded n order)
      exact ⟨_, _, v, v', text_some few real, text_some few real', found, found', kept⟩

/-- Rounded to three digits, a number with an exponent and one that is carried to the next power of
ten are shown in different forms. -/
theorem text_mono_across_forms :
    (∀ places ∈ some (3 : Int), 0 ≤ places ∧ places ≤ greatestPlaces) ∧
    (Decimal.toBinary64 true ⟨1, -5⟩).le (Decimal.toBinary64 false ⟨9997, -1⟩) = true ∧
    text (some 3) (Decimal.toBinary64 true ⟨1, -5⟩) = .ok "-1e-05" ∧
    text (some 3) (Decimal.toBinary64 false ⟨9997, -1⟩) = .ok "1000" ∧
    ∃ v v', denoted? "-1e-05" = some v ∧ denoted? "1000" = some v' ∧ v ≤ v' := by
  have inRange : ∀ places ∈ some (3 : Int), 0 ≤ places ∧ places ≤ greatestPlaces := by decide
  have order : (Decimal.toBinary64 true ⟨1, -5⟩).le (Decimal.toBinary64 false ⟨9997, -1⟩) = true := by
    decide +kernel
  have written : text (some 3) (Decimal.toBinary64 true ⟨1, -5⟩) = .ok "-1e-05" := by decide +kernel
  have written' : text (some 3) (Decimal.toBinary64 false ⟨9997, -1⟩) = .ok "1000" := by
    decide +kernel
  obtain ⟨shown, shown', v, v', same, same', found, found', kept⟩ :=
    text_mono (some 3) inRange _ _ order
  cases written.symm.trans same
  cases written'.symm.trans same'
  exact ⟨inRange, order, written, written', v, v', found, found', kept⟩

end Answer

end Reckoner
