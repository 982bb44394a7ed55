import Reckoner.Binary64.Rounding

/-!
# Decimal numbers

Exact nonnegative decimals `coefficient * 10 ^ exponent`, their digits, and the binary64 number
nearest to one.

## Implementation notes

A power of ten with an integer exponent is kept as a ratio of two natural powers, one of which is
one, so that no statement needs rational numbers.
-/

namespace Reckoner

/-- The character of a decimal digit. -/
def digitChar (digit : Nat) : Char := Char.ofNat (48 + digit)

/-- The decimal digits of a natural number; zero has the one digit `0`. -/
def decimalDigits (n : Nat) : List Char :=
  if n < 10 then [digitChar n] else decimalDigits (n / 10) ++ [digitChar (n % 10)]
termination_by n
decreasing_by omega

/-- The number written by a list of ASCII digits. -/
def digitsValue (digits : List Char) : Nat :=
  digits.foldl (fun value digit => 10 * value + (digit.toNat - 48)) 0

/-- The greatest number of digits of a decimal integer that is converted. -/
def greatestDigitCount : Nat := 4300

/-- How many digits a natural number has; zero counts as having none. -/
def digitCount (n : Nat) : Nat :=
  if n = 0 then 0 else digitCount (n / 10) + 1
termination_by n
decreasing_by omega

/-- The decimal text of an integer, with a sign only in front of negative ones. -/
def integerText (n : Int) : String :=
  String.ofList ((if n < 0 then ['-'] else []) ++ decimalDigits n.natAbs)

/-- The nonnegative decimal `coefficient * 10 ^ exponent`. -/
structure Decimal where
  /-- The digits, read as a natural number. -/
  coefficient : Nat
  /-- The power of ten of the last digit. -/
  exponent : Int
deriving DecidableEq

namespace Decimal

/-- The numerator of the value as a ratio. -/
def numerator (decimal : Decimal) : Nat := decimal.coefficient * Nat.pow 10 decimal.exponent.toNat

/-- The denominator of the value as a ratio. -/
def denominator (decimal : Decimal) : Nat := Nat.pow 10 (-decimal.exponent).toNat

/-- The power of ten of the first digit. -/
def leadingExponent (decimal : Decimal) : Int :=
  decimal.exponent + digitCount decimal.coefficient - 1

/-- The binary64 number nearest to the value.  Decimals above `10 ^ 400` and below `10 ^ (-400)`
are far outside the range and are answered without computing their ratio. -/
def toBinary64 (negative : Bool) (decimal : Decimal) : Binary64 :=
  if decimal.coefficient = 0 ∨ decimal.leadingExponent < -400 then .finite negative .zero
  else if 400 < decimal.leadingExponent then .infinite negative
  else .ofRatio negative decimal.numerator decimal.denominator

/-- The same value without trailing zero digits. -/
def trimmed (decimal : Decimal) : Decimal :=
  if decimal.coefficient = 0 then ⟨0, 0⟩
  else if decimal.coefficient % 10 = 0 then
    trimmed ⟨decimal.coefficient / 10, decimal.exponent + 1⟩
  else decimal
termination_by decimal.coefficient
decreasing_by show decimal.coefficient / 10 < decimal.coefficient; omega

/-- The power of ten of the leading digit of a positive ratio. -/
def ratioLeadingExponent (numerator denominator : Nat) : Int :=
  if denominator ≤ numerator then digitCount (numerator / denominator) - 1
  else -(digitCount ((denominator - 1) / numerator))

end Decimal

end Reckoner
