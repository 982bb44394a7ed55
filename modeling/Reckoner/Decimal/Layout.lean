import Reckoner.Decimal.Shortest

/-!
# Written decimals

How the digits of a decimal are laid out: in positional form when its leading exponent lies in a
window, else with one digit before the point and an exponent of at least two digits.  Two records
fix the window and the treatment of whole numbers for the texts that the program writes.
-/

namespace Reckoner

/-- The choices that fix the written form of a decimal. -/
structure Layout where
  /-- The least leading exponent that is written positionally. -/
  leastPositional : Int
  /-- The first leading exponent that is too large to be written positionally. -/
  positionalEnd : Int
  /-- Whether a whole number in positional form ends in `.0`. -/
  marksWhole : Bool

namespace Layout

/-- Values are written positionally from `10 ^ (-4)` up to `10 ^ 16`, whole ones marked. -/
def value : Layout := ⟨-4, 16, true⟩

/-- Operands in messages have six digits and are written positionally below `10 ^ 6`. -/
def operand : Layout := ⟨-4, 6, false⟩

/-- The number of significant digits of operands in messages. -/
def operandPlaces : Nat := 6

/-- The digits around the point when the leading exponent is `leading`. -/
def positional (marksWhole : Bool) (digits : List Char) (leading : Int) : List Char :=
  if leading < 0 then
    '0' :: '.' :: (List.replicate (-leading - 1).toNat '0' ++ digits)
  else
    let whole := leading.toNat + 1
    if digits.length ≤ whole then
      digits ++ List.replicate (whole - digits.length) '0' ++ (if marksWhole then ['.', '0'] else [])
    else digits.take whole ++ '.' :: digits.drop whole

/-- The exponent mark, its sign and at least two digits. -/
def exponentMark (exponent : Int) : List Char :=
  let digits := decimalDigits exponent.natAbs
  'e' :: (if exponent < 0 then '-' else '+') :: (List.replicate (2 - digits.length) '0' ++ digits)

/-- One digit, the remaining digits behind a point, and the exponent. -/
def scientific (digits : List Char) (leading : Int) : List Char :=
  match digits with
  | [] => []
  | [digit] => digit :: exponentMark leading
  | digit :: others => digit :: '.' :: others ++ exponentMark leading

/-- The written form of a nonnegative decimal. -/
def decimalText (layout : Layout) (decimal : Decimal) : List Char :=
  let reduced := decimal.trimmed
  let digits := decimalDigits reduced.coefficient
  let leading := reduced.exponent + digits.length - 1
  if layout.leastPositional ≤ leading ∧ leading < layout.positionalEnd then
    positional layout.marksWhole digits leading
  else scientific digits leading

/-- The minus sign of a negative number. -/
def sign (negative : Bool) : List Char := if negative then ['-'] else []

end Layout

namespace Binary64

/-- The text of a number, given the layout and the decimal that stands for a magnitude. -/
def textWith (layout : Layout) (decimal : Magnitude → Decimal) : Binary64 → String
  | .nan => "nan"
  | .infinite negative => String.ofList (Layout.sign negative ++ ['i', 'n', 'f'])
  | .finite negative magnitude =>
      String.ofList (Layout.sign negative ++ layout.decimalText (decimal magnitude))

/-- The shortest text that reads back as the number. -/
def shortestText (x : Binary64) : String := textWith .value Decimal.shortest x

/-- The text of an operand in a message: six significant digits without trailing zeros. -/
def operandText (x : Binary64) : String :=
  textWith .operand (Decimal.significant Layout.operandPlaces) x

end Binary64

end Reckoner
