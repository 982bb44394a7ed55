/-!
# Sorted ranges of code points

The representation of character classes that are too large for a formula.
-/

namespace Reckoner.Text

/-- Whether a code point lies in one of the given closed ranges, which are sorted and disjoint. -/
def inRanges : List (Nat × Nat) → Nat → Bool
  | [], _ => false
  | (first, last) :: later, point =>
      if point < first then false
      else if point ≤ last then true
      else inRanges later point

end Reckoner.Text
