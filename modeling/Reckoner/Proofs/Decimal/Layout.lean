import Reckoner.Decimal.Layout
import Reckoner.Proofs.Decimal.Reading
import Reckoner.Proofs.Decimal.Value

/-!
# Written decimals are read

A decimal written in positional form is a numeral that is read as the same value, however its digits
stand around the point.  One written with an exponent begins with a numeral and goes on with a
letter.
-/

namespace Reckoner

open Decimal (readDecimal? value)

variable {cs digits : List Char} {decimal : Decimal}

/-- The text is a numeral that is read as a decimal of the given value. -/
def Denotes (cs : List Char) (v : ℚ) : Prop :=
  IsNumeral cs ∧ ∃ decimal, readDecimal? cs = some decimal ∧ decimal.value = v

theorem denotes_digits (nonempty : cs ≠ []) (h : ∀ c ∈ cs, '0' ≤ c ∧ c ≤ '9') :
    Denotes cs (digitsValue cs) := by
  refine ⟨.inl ⟨nonempty, h⟩, _, Decimal.readDecimal?_digits nonempty h, ?_⟩
  simp [value]

theorem denotes_point (whole fraction : List Char) (nonempty : whole ++ fraction ≠ [])
    (h : ∀ c ∈ whole ++ fraction, '0' ≤ c ∧ c ≤ '9') :
    Denotes (whole ++ '.' :: fraction)
      (digitsValue (whole ++ fraction) * 10 ^ (-(fraction.length : Int))) :=
  ⟨.inr ⟨whole, fraction, rfl, nonempty, h⟩, _, Decimal.readDecimal?_point nonempty h, rfl⟩

theorem isDigit_zeros (k : Nat) : ∀ c ∈ List.replicate k '0', '0' ≤ c ∧ c ≤ '9' := by
  intro c mem
  cases List.eq_of_mem_replicate mem
  decide

/-- Zeros between the point and the digits move the digits back. -/
theorem denotes_zeros_front (k : Nat) (h : ∀ c ∈ digits, '0' ≤ c ∧ c ≤ '9') :
    Denotes ('0' :: '.' :: (List.replicate k '0' ++ digits))
      (digitsValue digits * 10 ^ (-(k + digits.length : Int))) := by
  have read := denotes_point ['0'] (List.replicate k '0' ++ digits) (by simp)
    (List.forall_mem_append.2
      ⟨isDigit_zeros 1, List.forall_mem_append.2 ⟨isDigit_zeros k, h⟩⟩)
  have front : digitsValue (['0'] ++ (List.replicate k '0' ++ digits)) = digitsValue digits :=
    (digitsValue_zeros_append 1).trans (digitsValue_zeros_append k)
  rw [front, List.length_append, List.length_replicate, Nat.cast_add] at read
  exact read

/-- Zeros between the digits and the point move the digits forward. -/
theorem denotes_zeros_back (k : Nat) (h : ∀ c ∈ digits, '0' ≤ c ∧ c ≤ '9') :
    Denotes (digits ++ List.replicate k '0' ++ ['.', '0']) (digitsValue digits * 10 ^ k) := by
  have read := denotes_point (digits ++ List.replicate k '0') ['0'] (by simp)
    (List.forall_mem_append.2
      ⟨List.forall_mem_append.2 ⟨h, isDigit_zeros k⟩, isDigit_zeros 1⟩)
  have back : digitsValue (digits ++ List.replicate k '0' ++ ['0']) =
      digitsValue digits * 10 ^ k * 10 ^ 1 := by
    rw [← digitsValue_append_zeros, ← digitsValue_append_zeros]
    rfl
  have value : (digitsValue digits : ℚ) * 10 ^ k =
      (digitsValue digits * 10 ^ k * 10 ^ 1 : Nat) * 10 ^ (-(['0'].length : Int)) := by
    simp
  rw [value, ← back]
  exact read

/-- A point among the digits moves them back by the number of digits behind it. -/
theorem denotes_take_drop (k : Nat) (nonempty : digits ≠ [])
    (h : ∀ c ∈ digits, '0' ≤ c ∧ c ≤ '9') :
    Denotes (digits.take k ++ '.' :: digits.drop k)
      (digitsValue digits * 10 ^ (-((digits.length - k : Nat) : Int))) := by
  have read := denotes_point (digits.take k) (digits.drop k) (by simpa using nonempty)
    (by simpa using h)
  rw [List.take_append_drop, List.length_drop] at read
  exact read

namespace Layout

/-- In positional form the first digit has the place value of the leading exponent. -/
theorem denotes_positional (leading : Int) (nonempty : digits ≠ [])
    (h : ∀ c ∈ digits, '0' ≤ c ∧ c ≤ '9') :
    Denotes (positional true digits leading)
      (digitsValue digits * 10 ^ (leading + 1 - digits.length)) := by
  unfold positional
  dsimp only
  split
  case isTrue small =>
    have place : leading + 1 - digits.length =
        -((-leading - 1).toNat + digits.length : Int) := by omega
    rw [place]
    exact denotes_zeros_front _ h
  case isFalse large =>
    split
    case isTrue short =>
      have place : leading + 1 - digits.length =
          ((leading.toNat + 1 - digits.length : Nat) : Int) := by omega
      rw [place, zpow_natCast]
      exact denotes_zeros_back _ h
    case isFalse long =>
      have place : leading + 1 - digits.length =
          -((digits.length - (leading.toNat + 1) : Nat) : Int) := by omega
      rw [place]
      exact denotes_take_drop _ nonempty h

/-- With an exponent, the digits around the point are a numeral, and a letter follows. -/
theorem scientific_eq (leading : Int) (nonempty : digits ≠ [])
    (h : ∀ c ∈ digits, '0' ≤ c ∧ c ≤ '9') :
    ∃ numeral rest, scientific digits leading = numeral ++ 'e' :: rest ∧ IsNumeral numeral := by
  match digits with
  | [] => exact absurd rfl nonempty
  | [digit] => exact ⟨[digit], _, rfl, .inl ⟨nonempty, h⟩⟩
  | digit :: other :: others =>
      refine ⟨[digit] ++ '.' :: other :: others, _, rfl, .inr ⟨_, _, rfl, nofun, h⟩⟩

section DecimalText

variable {layout : Layout}

/-- The exponent of the first written digit is the leading exponent. -/
theorem leading_eq (nonzero : decimal.coefficient ≠ 0) :
    decimal.trimmed.exponent + (decimalDigits decimal.trimmed.coefficient).length - 1 =
      decimal.leadingExponent := by
  have kept := decimal.coefficient_trimmed_ne_zero nonzero
  rw [length_decimalDigits (Nat.pos_of_ne_zero kept)]
  exact Decimal.leadingExponent_congr kept decimal.value_trimmed

/-- A decimal whose leading exponent lies in the window is written as a numeral of its value. -/
theorem denotes_decimalText (marked : layout.marksWhole = true) (nonzero : decimal.coefficient ≠ 0)
    (window : layout.leastPositional ≤ decimal.leadingExponent ∧
      decimal.leadingExponent < layout.positionalEnd) :
    Denotes (layout.decimalText decimal) decimal.value := by
  have leading := leading_eq nonzero
  have place : decimal.leadingExponent + 1 -
      ((decimalDigits decimal.trimmed.coefficient).length : Int) = decimal.trimmed.exponent := by
    omega
  have read := denotes_positional decimal.leadingExponent
    (decimalDigits_ne_nil decimal.trimmed.coefficient) (isDigit_decimalDigits _)
  rw [place, digitsValue_decimalDigits] at read
  rw [decimalText, leading, if_pos window, marked, ← decimal.value_trimmed]
  exact read

/-- Outside the window, a decimal is written as a numeral and an exponent. -/
theorem decimalText_eq_exponent (nonzero : decimal.coefficient ≠ 0)
    (outside : ¬(layout.leastPositional ≤ decimal.leadingExponent ∧
      decimal.leadingExponent < layout.positionalEnd)) :
    ∃ numeral rest, layout.decimalText decimal = numeral ++ 'e' :: rest ∧ IsNumeral numeral := by
  rw [decimalText, leading_eq nonzero, if_neg outside]
  exact scientific_eq _ (decimalDigits_ne_nil _) (isDigit_decimalDigits _)

end DecimalText

end Layout

end Reckoner
