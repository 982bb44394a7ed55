import Reckoner.Proofs.Binary64.Arithmetic
import Reckoner.Proofs.Decimal.Ending
import Reckoner.Proofs.Precision

/-!
# Answers without a precision are lossless and canonical

An answer without a precision is read as the number that it shows, so that different numbers have
different answers.  Small integers, and nothing else, are written as integers; zero has no sign, and
no answer ends in a point and a zero.
-/

namespace Reckoner.Answer

open Decimal (readNumber?)

variable {x y : Binary64}

section Reading

/-- The text of a number is read as a number equal to it. -/
theorem exists_read (real : x.isNaN = false) :
    ∃ w, readNumber? (numberText x) = some w ∧ w.eq x = true := by
  cases x with
  | nan => cases real
  | infinite negative =>
      exact ⟨_, readNumber?_infinite negative, Binary64.eq_iff.2 ⟨_, rfl, rfl⟩⟩
  | finite negative magnitude =>
      by_cases zero : magnitude.rank = 0
      · have written : numberText (.finite negative magnitude) = "0" := Binary64.plainText_zero zero
        cases (Magnitude.eq_of_rank_eq zero : magnitude = .zero)
        refine ⟨.finite false .zero, ?_, ?_⟩
        · rw [written]
          decide +kernel
        · cases negative <;> decide
      · exact ⟨_, Binary64.readNumber?_plainText_finite zero negative,
          Binary64.eq_iff.2 ⟨_, rfl, rfl⟩⟩

/-- Numbers that are shown alike are equal. -/
theorem eq_of_numberText_eq (real : x.isNaN = false) (real' : y.isNaN = false)
    (alike : numberText x = numberText y) : x.eq y = true := by
  obtain ⟨w, read, same⟩ := exists_read real
  obtain ⟨w', read', same'⟩ := exists_read real'
  rw [alike] at read
  cases read.symm.trans read'
  obtain ⟨place, here, there⟩ := Binary64.eq_iff.1 same
  obtain ⟨place', here', there'⟩ := Binary64.eq_iff.1 same'
  cases here.symm.trans here'
  exact Binary64.eq_iff.2 ⟨place, there, there'⟩

/-- Zero is written without a sign. -/
theorem numberText_ne_negative_zero (real : x.isNaN = false) : numberText x ≠ "-0" := by
  intro written
  obtain ⟨w, read, same⟩ := exists_read real
  have zero : readNumber? "-0" = some (.finite true .zero) := by decide +kernel
  rw [written] at read
  cases read.symm.trans zero
  obtain ⟨place, here, there⟩ := Binary64.eq_iff.1 same
  cases here
  cases x with
  | nan => cases real
  | infinite negative => cases negative <;> cases there
  | finite negative magnitude =>
      have rank : magnitude.rank = 0 := by
        cases negative <;> simpa [Binary64.place?, Binary64.place?.signed, Magnitude.zero] using there
      have unsigned : numberText (.finite negative magnitude) = "0" := Binary64.plainText_zero rank
      exact absurd (unsigned.symm.trans written) (by decide)

end Reading

/-- The answer shows the number without loss, and in the one form that there is for it. -/
structure Canonical (x : Binary64) (shown : String) : Prop where
  /-- It is read as a number equal to the one that is shown. -/
  reads : ∃ w, readNumber? shown = some w ∧ w.eq x = true
  /-- A number with the same answer is equal. -/
  distinct : ∀ y, text none y = .ok shown → y.eq x = true
  /-- It is written as an integer if it is one that is small enough, and only then. -/
  integer : IsIntegerText shown.toList ↔
    x.isFinite = true ∧ ∃ n : ℤ, x.value = n ∧ |n| < 10 ^ 16
  /-- Zero has no sign. -/
  unsigned : shown ≠ "-0"
  /-- It does not end in a point and a zero. -/
  ending : ¬EndsWhole shown.toList

/-- An answer without a precision is lossless and canonical. -/
theorem text_canonical (x : Binary64) (real : x.isNaN = false) :
    ∃ shown, text none x = .ok shown ∧ Canonical x shown := by
  refine ⟨numberText x, text_none real, exists_read real, fun y alike => ?_, ?_,
    numberText_ne_negative_zero real, ?_⟩
  · cases y with
    | nan => cases alike
    | infinite negative => exact eq_of_numberText_eq rfl real (Except.ok.inj alike)
    | finite negative magnitude => exact eq_of_numberText_eq rfl real (Except.ok.inj alike)
  · cases x with
    | nan => cases real
    | infinite negative =>
        refine iff_of_false (fun integer => ?_) (fun small => absurd small.1 Bool.false_ne_true)
        have letter : 'I' ∈ (numberText (.infinite negative)).toList := by cases negative <;> decide
        exact absurd (integer.mem letter) (by decide)
    | finite negative magnitude =>
        have finite : (Binary64.finite negative magnitude).isFinite = true := rfl
        rw [and_iff_right finite, Binary64.exists_integer_iff]
        exact Binary64.isIntegerText_plainText_iff
  · cases x with
    | nan => cases real
    | infinite negative => cases negative <;> decide
    | finite negative magnitude => exact Binary64.not_endsWhole_plainText negative magnitude

/-- The least power of ten that is not written as an integer, although it is one. -/
theorem text_canonical_power :
    (Decimal.toBinary64 true ⟨1, 16⟩).isNaN = false ∧
    text none (Decimal.toBinary64 true ⟨1, 16⟩) = .ok "-1e+16" ∧
    Canonical (Decimal.toBinary64 true ⟨1, 16⟩) "-1e+16" := by
  have real : (Decimal.toBinary64 true ⟨1, 16⟩).isNaN = false := by decide +kernel
  have written : text none (Decimal.toBinary64 true ⟨1, 16⟩) = .ok "-1e+16" := by decide +kernel
  obtain ⟨shown, same, canonical⟩ := text_canonical _ real
  cases written.symm.trans same
  exact ⟨real, written, canonical⟩

end Reckoner.Answer
