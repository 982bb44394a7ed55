import Reckoner.Decimal.Basic

/-!
# Rounding to significant digits

A positive ratio is rounded once to the decimal grid whose leading place is its own, a tie going to
the even digit.
-/

namespace Reckoner.Decimal

/-- The power of ten of the last of `places` significant digits of a positive ratio. -/
def lastPlace (places numerator denominator : Nat) : Int :=
  ratioLeadingExponent numerator denominator - (places - 1)

/-- A positive ratio counted in the given power of ten, as a ratio again. -/
def inPowers (exponent : Int) (numerator denominator : Nat) : Nat × Nat :=
  (numerator * Nat.pow 10 (-exponent).toNat, denominator * Nat.pow 10 exponent.toNat)

/-- The decimal with at most `places` significant digits that is nearest to a positive ratio. -/
def ofRatio (places numerator denominator : Nat) : Decimal :=
  let last := lastPlace places numerator denominator
  let (scaled, unit) := inPowers last numerator denominator
  ⟨roundHalfEven scaled unit, last⟩

/-- A magnitude rounded to `places` significant digits, at least one.  No magnitude has 800 digits,
so that more places change nothing. -/
def significant (places : Nat) (magnitude : Magnitude) : Decimal :=
  if magnitude.rank = 0 then ⟨0, 0⟩
  else ofRatio (max 1 (min places 800)) magnitude.units unitsPerOne

end Reckoner.Decimal
