import Reckoner.Decimal.Reading

/-!
# Numerals in settings

Texts that stand for numbers in settings and in options.  Blanks around a numeral are ignored and
underscores may stand inside it, though not at an end and not next to each other.  An integer may
also have a plus sign, leading zeros and a fraction of zeros.

## Implementation notes

What an integer may have beside its digits is taken off in a fixed order: blanks, the plus sign,
leading zeros, the fraction, underscores.  What then remains has to be a plain integer, so that
each step decides only by the characters that it sees.  Leading zeros may stand behind a minus sign
or in front of one, though not both, and underscores may stand among them freely.
-/

namespace Reckoner

/-- Why a text is no integer. -/
inductive IntegerError where
  /-- The text is no integer numeral. -/
  | malformed
  /-- There are too many digits. -/
  | tooLong
deriving DecidableEq

namespace Settings

open Text (trim isBlank)
open Decimal (isAsciiDigit)

/-- Whether a character is a digit other than zero. -/
def isNonzeroDigit (c : Char) : Bool := isAsciiDigit c && c != '0'

/-- A text without its underscores, if none of them stands at an end or next to another one. -/
def withoutUnderscores (cs : List Char) : List Char :=
  if cs.head? = some '_' ∨ cs.getLast? = some '_' ∨ (cs.zip cs.tail).contains ('_', '_') then cs
  else cs.filter (· != '_')

/-- A text without the plus sign at its front, which no minus sign may follow. -/
def withoutPlus? : List Char → Option (List Char)
  | '+' :: '-' :: _ => none
  | '+' :: rest => some rest
  | cs => some cs

/-- What follows leading zeros, the last of which is `previous`.  The last zero stays in front of a
point and at the end of the text. -/
def afterZeros? (previous : Char) : List Char → Option (List Char)
  | [] => some [previous]
  | c :: rest =>
      if c = '0' ∨ c = '_' then afterZeros? c rest
      else if isNonzeroDigit c ∨ c = '-' then some (c :: rest)
      else if c = '.' then some (previous :: c :: rest)
      else none

/-- A text without leading zeros; it has to start with a digit. -/
def withoutZeros? : List Char → Option (List Char)
  | [] => none
  | c :: rest =>
      if c = '0' then afterZeros? c rest
      else if isNonzeroDigit c then some (c :: rest)
      else none

/-- A text without the leading zeros behind its minus sign, if it has one. -/
def withoutLeadingZeros? : List Char → Option (List Char)
  | '-' :: rest => (withoutZeros? rest).map ('-' :: ·)
  | cs => withoutZeros? cs

/-- A text without a fraction that consists of zeros, at least one. -/
def withoutZeroFraction (cs : List Char) : List Char :=
  match cs.dropWhile (· != '.') with
  | '.' :: '0' :: zeros => if zeros.all (· == '0') then cs.takeWhile (· != '.') else cs
  | _ => cs

/-- A plain integer: an optional minus sign, and digits that start with zero only for zero itself. -/
def readPlainInteger (cs : List Char) : Except IntegerError Int :=
  let negative := cs.head? = some '-'
  let unsigned := if negative then cs.tail else cs
  let digits := unsigned.takeWhile isAsciiDigit
  if unsigned = ['0'] then .ok 0
  else if digits.isEmpty || digits.head? == some '0' then .error .malformed
  else if greatestDigitCount < digits.length then .error .tooLong
  else if digits.length < unsigned.length then .error .malformed
  else .ok (if negative then -(digitsValue digits : Int) else digitsValue digits)

/-- The integer that a text stands for. -/
def readInteger (text : String) : Except IntegerError Int :=
  match (withoutPlus? (trim isBlank text.toList)).bind withoutLeadingZeros? with
  | none => .error .malformed
  | some cs => readPlainInteger (withoutUnderscores (withoutZeroFraction cs))

/-- The number that a text stands for.  A numeral with blanks around it has no underscores. -/
def readNumber? (text : String) : Option Binary64 :=
  (Decimal.readNumeral? (trim isBlank text.toList)).or
    (Decimal.readNumeral? (withoutUnderscores text.toList))

end Settings

end Reckoner
