import Reckoner.Decimal.Basic
import Reckoner.Text.Blank
import Reckoner.Text.Digit

/-!
# Reading numerals

A numeral is an optional sign followed by digits with at most one point among or around them and an
optional exponent, or by a spelling of infinity or NaN.  It is read exactly and rounded once.

## Implementation notes

`readNumeral?` reads the plain ASCII form.  `readNumber?` first reduces a text to that form: blanks
around it are dropped, decimal digits of every script become ASCII digits, and underscores between
two digits disappear.
-/

namespace Reckoner.Decimal

open Reckoner.Text

/-- Whether a character is an ASCII digit. -/
def isAsciiDigit (c : Char) : Bool := decide (48 ≤ c.toNat ∧ c.toNat ≤ 57)

/-- An optional sign and what follows it. -/
def readSign : List Char → Bool × List Char
  | '-' :: rest => (true, rest)
  | '+' :: rest => (false, rest)
  | cs => (false, cs)

/-- The exponent that ends a numeral; without one it is zero. -/
def readExponent? : List Char → Option Int
  | [] => some 0
  | mark :: rest =>
      if mark = 'e' ∨ mark = 'E' then
        let (negative, digits) := readSign rest
        if !digits.isEmpty && digits.all isAsciiDigit then
          some (if negative then -(digitsValue digits : Int) else digitsValue digits)
        else none
      else none

/-- What follows an optional point, if the point is there. -/
def afterPoint? : List Char → Option (List Char)
  | '.' :: rest => some rest
  | _ => none

/-- An unsigned numeral with at least one digit, read as an exact decimal. -/
def readDecimal? (cs : List Char) : Option Decimal :=
  let whole := cs.takeWhile isAsciiDigit
  let afterWhole := cs.dropWhile isAsciiDigit
  let (fraction, afterFraction) :=
    match afterPoint? afterWhole with
    | some rest => (rest.takeWhile isAsciiDigit, rest.dropWhile isAsciiDigit)
    | none => ([], afterWhole)
  if whole.isEmpty && fraction.isEmpty then none
  else (readExponent? afterFraction).map fun exponent =>
    ⟨digitsValue (whole ++ fraction), exponent - fraction.length⟩

/-- The names of the numbers that no digits write, in lower case. -/
def readSpecial? (negative : Bool) (name : String) : Option Binary64 :=
  if name = "inf" ∨ name = "infinity" then some (.infinite negative)
  else if name = "nan" then some .nan
  else none

/-- A plain numeral. -/
def readNumeral? (cs : List Char) : Option Binary64 :=
  let (negative, unsigned) := readSign cs
  (readSpecial? negative (String.ofList (unsigned.map Char.toLower))).or
    ((readDecimal? unsigned).map (toBinary64 negative))

/-- A text without its underscores, each of which has to stand between two digits; `previous` is
the character in front. -/
def withoutUnderscores? (previous : Char) : List Char → Option (List Char)
  | [] => some []
  | c :: rest =>
      if c = '_' then
        match rest with
        | [] => none
        | next :: _ =>
            if isAsciiDigit previous && isAsciiDigit next then withoutUnderscores? c rest else none
      else (withoutUnderscores? c rest).map (c :: ·)

/-- The ASCII character that a character of a numeral stands for. -/
def plainChar? (c : Char) : Option Char :=
  if c.toNat < 128 then some c
  else if isWideBlank c then some ' '
  else (decimalDigit? c).map digitChar

/-- The plain form of a text: without the blanks around it, with ASCII digits for decimal digits of
every script, and without underscores. -/
def plainForm? (text : String) : Option (List Char) := do
  let plain ← text.toList.mapM plainChar?
  withoutUnderscores? ' ' (trim isAsciiBlank plain)

/-- A numeral with blanks around it, digits of any script and underscores between digits. -/
def readNumber? (text : String) : Option Binary64 := (plainForm? text).bind readNumeral?

end Reckoner.Decimal
