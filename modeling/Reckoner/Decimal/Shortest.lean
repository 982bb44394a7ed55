import Reckoner.Decimal.Significant

/-!
# Shortest decimals

The fewest significant digits that read back as a given magnitude and, among decimals with that
many digits, the one nearest to it.

## Implementation notes

On the grid with a given number of digits only the two neighbours of the magnitude can be nearest,
because reading is monotone: if any point of the grid reads back, so does a neighbour.  Seventeen
digits always suffice.
-/

namespace Reckoner.Decimal

/-- Whether a decimal reads as the magnitude. -/
def readsAs (magnitude : Magnitude) (decimal : Decimal) : Bool :=
  nearestRank (decimal.numerator * unitsPerOne) decimal.denominator == magnitude.rank

/-- The decimal with `places` significant digits that reads as the magnitude, if there is one: the
nearest when it does, else the other neighbour. -/
def withPlaces? (magnitude : Magnitude) (places : Nat) : Option Decimal :=
  let last := lastPlace places magnitude.units unitsPerOne
  let (scaled, unit) := inPowers last magnitude.units unitsPerOne
  let below := scaled / unit
  [roundHalfEven scaled unit, below, below + 1].map (Decimal.mk · last) |>.find? (readsAs magnitude)

/-- The number of digits that suffices for every magnitude. -/
def enoughPlaces : Nat := 17

/-- The shortest decimal that reads as the magnitude. -/
def shortest (magnitude : Magnitude) : Decimal :=
  if magnitude.rank = 0 then ⟨0, 0⟩
  else
    ((List.range' 1 enoughPlaces).findSome? (withPlaces? magnitude)).getD
      (significant enoughPlaces magnitude)

end Reckoner.Decimal
