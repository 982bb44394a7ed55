import Reckoner.Decimal.Reading
import Reckoner.Expr.Rendering
import Reckoner.Failure

/-!
# Answers

The text in which a value is shown.  Without a precision it is the shortest text that reads back as
the value; with one, the value is first rounded to that many significant digits and the rounded
number is shown in the same way.
-/

namespace Reckoner.Answer

/-- The text of a number that is not NaN; both zeros are shown alike. -/
def numberText : Binary64 → String
  | .infinite negative => if negative then "-Infinity" else "Infinity"
  | x => x.plainText

/-- The number nearest to a finite number rounded to `places` significant digits. -/
def rounded (places : Nat) : Binary64 → Binary64
  | .finite negative magnitude =>
      (Decimal.significant places magnitude).toBinary64 negative
  | x => x

/-- The greatest number of significant digits that can be asked for. -/
def greatestPlaces : Nat := 0x7fffffff

/-- Above this, a number of significant digits is not even read. -/
def greatestReadablePlaces : Nat := 0x7fffffffffffffff

/-- The number of significant digits that is asked for, if it can be. -/
def places (precision : Int) : Except Misuse Nat :=
  if precision < 0 then .error .negativePrecision
  else if greatestReadablePlaces < precision then .error .unreadablePrecision
  else if greatestPlaces < precision then .error .hugePrecision
  else .ok precision.toNat

/-- The text of a value with the given number of significant digits; none counts as one. -/
def text (precision : Option Int) (value : Binary64) : Except Misuse String :=
  match value, precision with
  | .nan, _ => .error .formattedNaN
  | .finite .., some precision =>
      (places precision).map fun places => numberText (rounded places value)
  | _, _ => .ok (numberText value)

end Reckoner.Answer
