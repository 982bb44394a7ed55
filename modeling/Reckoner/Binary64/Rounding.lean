import Reckoner.Binary64.Basic

/-!
# Rounding exact ratios to binary64

The one rounding rule of the library: to the nearest number, a tie going to the even neighbour.
Every operation whose exact result is a ratio of natural numbers rounds through `nearestRank`.

## Implementation notes

The rank of the nearest magnitude is `shift * binade + quotient`, where the quotient is the ratio
counted in steps of `2 ^ shift` units and rounded to an integer.  A quotient that rounds up to
`2 ^ 53` gives the rank of the next power of two by the same formula, and a rank that reaches
`magnitudeCount` is an overflow, so neither needs a case of its own.
-/

namespace Reckoner

/-- The integer nearest to `numerator / denominator`, a tie going to the even one. -/
def roundHalfEven (numerator denominator : Nat) : Nat :=
  let quotient := numerator / denominator
  let twice := 2 * (numerator % denominator)
  if twice < denominator ∨ (twice = denominator ∧ quotient % 2 = 0) then quotient
  else quotient + 1

/-- The rank of the magnitude nearest to `numerator / denominator` units, without an upper end. -/
def nearestRank (numerator denominator : Nat) : Nat :=
  let shift := (numerator / denominator).log2 - 52
  shift * binade + roundHalfEven numerator (denominator * Nat.pow 2 shift)

namespace Binary64

/-- The number of the given sign and rank; a rank without a finite magnitude is an infinity. -/
def ofRank (negative : Bool) (rank : Nat) : Binary64 :=
  if h : rank < magnitudeCount then .finite negative ⟨rank, h⟩ else .infinite negative

/-- The number nearest to `numerator / denominator` units. -/
def ofUnits (negative : Bool) (numerator denominator : Nat) : Binary64 :=
  ofRank negative (nearestRank numerator denominator)

/-- The number nearest to `numerator / denominator`. -/
def ofRatio (negative : Bool) (numerator denominator : Nat) : Binary64 :=
  ofUnits negative (numerator * unitsPerOne) denominator

/-- The number nearest to a natural number. -/
def ofNat (n : Nat) : Binary64 := ofRatio false n 1

/-- The number nearest to an integer. -/
def ofInt (n : Int) : Binary64 := ofRatio (decide (n < 0)) n.natAbs 1

end Binary64

end Reckoner
