import Reckoner.Data
import Reckoner.Decimal.Reading
import Reckoner.Toml.Text

/-!
# Numbers, dates and times in TOML

Each reader takes the longest number, date or time at the front of the input.  What follows is for
the caller to accept or to reject.  A decimal integer with too many digits is read, but has no value.
-/

namespace Reckoner.Toml

/-- Why a document is not read. -/
inductive ReadError where
  /-- It is none. -/
  | malformed
  /-- It holds a decimal integer of too many digits, of which there are `count`. -/
  | longInteger (count : Nat)
deriving DecidableEq

/-- What a reader returns that rejects the input for being malformed. -/
def orMalformed {α : Type} (outcome : Option α) : Except ReadError α :=
  outcome.elim (.error .malformed) .ok

/-- Whether a character is a digit in the given base, which is at most sixteen. -/
def isDigitIn (base : Nat) (c : Char) : Bool :=
  match hexValue? c with
  | some digit => decide (digit < base)
  | none => false

/-- The input without an underscore that stands in front of a digit. -/
def skipUnderscore (base : Nat) : List Char → List Char
  | '_' :: d :: rest => if isDigitIn base d then d :: rest else '_' :: d :: rest
  | cs => cs

theorem length_skipUnderscore_le (base : Nat) (cs : List Char) :
    (skipUnderscore base cs).length ≤ cs.length := by
  unfold skipUnderscore
  split
  · split <;> simp
  · exact Nat.le_refl _

/-- Digits among which single underscores may stand, without the underscores, and the rest. -/
def readDigits (base : Nat) (cs : List Char) : List Char × List Char :=
  match cs with
  | [] => ([], [])
  | c :: rest =>
      if isDigitIn base c then
        let (digits, rest) := readDigits base (skipUnderscore base rest)
        (c :: digits, rest)
      else ([], c :: rest)
termination_by cs.length
decreasing_by exact Nat.lt_succ_of_le (length_skipUnderscore_le base rest)

/-- The number written by digits in a base. -/
def valueIn (base : Nat) (digits : List Char) : Nat :=
  digits.foldl (fun value digit => base * value + (hexValue? digit).getD 0) 0

/-- The base that the letter behind a leading zero announces. -/
def baseOf? (c : Char) : Option Nat :=
  if c = 'x' then some 16 else if c = 'o' then some 8 else if c = 'b' then some 2 else none

/-- A natural number in a base other than ten. -/
def readBased? : List Char → Option (Data × List Char)
  | '0' :: letter :: rest =>
      match baseOf? letter with
      | none => none
      | some base =>
          let (digits, rest) := readDigits base rest
          if digits.isEmpty then none else some (.integer (valueIn base digits), rest)
  | _ => none

/-- The digits in front of the point: zero, or digits that do not start with it. -/
def readWhole? : List Char → Option (List Char × List Char)
  | '0' :: rest => some (['0'], rest)
  | cs =>
      let (digits, rest) := readDigits 10 cs
      if digits.isEmpty then none else some (digits, rest)

/-- The digits behind a point, if digits follow it. -/
def readFraction? : List Char → Option (List Char × List Char)
  | '.' :: rest =>
      let (digits, rest) := readDigits 10 rest
      if digits.isEmpty then none else some (digits, rest)
  | _ => none

/-- The exponent, if the letter that announces it and digits are there. -/
def readExponent? : List Char → Option (Int × List Char)
  | mark :: rest =>
      if mark = 'e' ∨ mark = 'E' then
        let (negative, rest) := Decimal.readSign rest
        let (digits, rest) := readDigits 10 rest
        if digits.isEmpty then none
        else some (if negative then -(digitsValue digits : Int) else digitsValue digits, rest)
      else none
  | [] => none

/-- A decimal number as it is written. -/
structure Numeral where
  /-- Whether there is a minus sign in front. -/
  negative : Bool
  /-- The digits in front of the point. -/
  whole : List Char
  /-- The digits behind the point, if there is one. -/
  fraction : Option (List Char)
  /-- The exponent, if there is one. -/
  exponent : Option Int

/-- What a decimal number stands for: an integer without fraction and exponent, else a binary64
number. -/
def Numeral.value (numeral : Numeral) : Except ReadError Data :=
  match numeral.fraction, numeral.exponent with
  | none, none =>
      if greatestDigitCount < numeral.whole.length then .error (.longInteger numeral.whole.length)
      else
        .ok (.integer
          (if numeral.negative then -(digitsValue numeral.whole : Int)
          else digitsValue numeral.whole))
  | fraction, exponent =>
      let digits := fraction.getD []
      let decimal : Decimal :=
        ⟨digitsValue (numeral.whole ++ digits), exponent.getD 0 - digits.length⟩
      .ok (.real (decimal.toBinary64 numeral.negative))

/-- A decimal number. -/
def readNumeral? (cs : List Char) : Option (Numeral × List Char) := do
  let (negative, unsigned) := Decimal.readSign cs
  let (whole, afterWhole) ← readWhole? unsigned
  let fraction := readFraction? afterWhole
  let afterFraction := fraction.elim afterWhole (·.2)
  let exponent := readExponent? afterFraction
  return (⟨negative, whole, fraction.map (·.1), exponent.map (·.1)⟩,
    exponent.elim afterFraction (·.2))

/-- An infinity or NaN. -/
def readSpecial? (cs : List Char) : Option (Data × List Char) :=
  let (negative, unsigned) := Decimal.readSign cs
  if startsWith ['i', 'n', 'f'] unsigned then some (.real (.infinite negative), unsigned.drop 3)
  else if startsWith ['n', 'a', 'n'] unsigned then some (.real .nan, unsigned.drop 3)
  else none

/-- A number with exactly `width` digits. -/
def readFixed? (width : Nat) (cs : List Char) : Option (Nat × List Char) :=
  let digits := cs.take width
  if digits.length = width ∧ digits.all Decimal.isAsciiDigit then
    some (digitsValue digits, cs.drop width)
  else none

/-- The input behind an expected character. -/
def expect? (c : Char) : List Char → Option (List Char)
  | first :: rest => if first = c then some rest else none
  | [] => none

/-- The input behind a two-digit number below a bound. -/
def skipPair? (bound : Nat) (cs : List Char) : Option (List Char) := do
  let (n, rest) ← readFixed? 2 cs
  if n < bound then some rest else none

/-- The input behind a fraction of a second, if there is one. -/
def skipFraction : List Char → List Char
  | '.' :: c :: rest =>
      if Decimal.isAsciiDigit c then rest.dropWhile Decimal.isAsciiDigit else '.' :: c :: rest
  | cs => cs

/-- The input behind a time of day. -/
def skipTime? (cs : List Char) : Option (List Char) := do
  let minutes ← expect? ':' (← skipPair? 24 cs)
  let seconds ← expect? ':' (← skipPair? 60 minutes)
  return skipFraction (← skipPair? 60 seconds)

/-- The input behind an offset from universal time, if there is one. -/
def skipOffset (cs : List Char) : List Char :=
  match cs with
  | [] => []
  | c :: rest =>
      if c = 'Z' ∨ c = 'z' then rest
      else if c = '+' ∨ c = '-' then
        (do skipPair? 60 (← expect? ':' (← skipPair? 24 rest))).getD cs
      else cs

/-- The input behind the time of day that may follow a date. -/
def skipTimeOfDate (cs : List Char) : List Char :=
  match cs with
  | [] => []
  | c :: rest =>
      if c = 'T' ∨ c = 't' ∨ c = ' ' then ((skipTime? rest).map skipOffset).getD cs else cs

/-- Whether a year has a leap day. -/
def isLeapYear (year : Nat) : Bool :=
  decide (year % 4 = 0) && (decide (year % 100 ≠ 0) || decide (year % 400 = 0))

/-- The number of days in a month. -/
def daysInMonth (year month : Nat) : Nat :=
  if month = 2 then (if isLeapYear year then 29 else 28)
  else if [4, 6, 9, 11].contains month then 30
  else 31

/-- The part of the input in front of a rest of it. -/
def front (cs rest : List Char) : String := String.ofList (cs.take (cs.length - rest.length))

/-- The year, month and day that a text with the form of a date starts with. -/
def readDateForm? (cs : List Char) : Option ((Nat × Nat × Nat) × List Char) := do
  let (year, afterYear) ← readFixed? 4 cs
  let (month, afterMonth) ← readFixed? 2 (← expect? '-' afterYear)
  let (day, rest) ← readFixed? 2 (← expect? '-' afterMonth)
  if 1 ≤ month ∧ month ≤ 12 ∧ 1 ≤ day ∧ day ≤ 31 then some ((year, month, day), rest) else none

/-- A date, possibly with a time of day, or a time of day.  A text with the form of a date that
denotes none is rejected rather than read as something else. -/
def readMoment? (cs : List Char) : Option (Option (Data × List Char)) :=
  match readDateForm? cs with
  | some ((year, month, day), afterDate) =>
      let rest := skipTimeOfDate afterDate
      if 1 ≤ year ∧ day ≤ daysInMonth year month then some (some (.moment (front cs rest), rest))
      else some none
  | none => (skipTime? cs).map fun rest => some (.moment (front cs rest), rest)

/-- A date, a time or a number. -/
def readScalar (cs : List Char) : Except ReadError (Data × List Char) :=
  match readMoment? cs with
  | some moment => orMalformed moment
  | none =>
      match readBased? cs, readNumeral? cs with
      | some found, _ => .ok found
      | none, some (numeral, rest) => numeral.value.map (·, rest)
      | none, none => orMalformed (readSpecial? cs)

end Reckoner.Toml
