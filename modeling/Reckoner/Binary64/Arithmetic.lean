import Reckoner.Binary64.Rounding

/-!
# Arithmetic on binary64 numbers

Sum, difference, product, quotient and square root, each the exact result rounded once, with the
standard rules for infinities and signed zeros, the remainder of a division, and the conversions
between numbers and integers.

## Implementation notes

Finite operands are whole numbers of units, so sums and products are computed on integers without
loss.  A square root is irrational in general; the integer root of the radicand, counted in units
squared, has far more bits than a significand, and one further bit records whether it is exact.
-/

namespace Reckoner.Binary64

/-- The value in units, with its sign. -/
def signedUnits (negative : Bool) (magnitude : Magnitude) : Int :=
  if negative then -(magnitude.units : Int) else magnitude.units

/-- The rounded sum.  Opposite infinities have none, and a zero sum is negative only when both
operands are. -/
def add : Binary64 → Binary64 → Binary64
  | .nan, _ => .nan
  | _, .nan => .nan
  | .infinite s, .infinite t => if s = t then .infinite s else .nan
  | .infinite s, .finite _ _ => .infinite s
  | .finite _ _, .infinite t => .infinite t
  | .finite s a, .finite t b =>
      let sum := signedUnits s a + signedUnits t b
      if sum = 0 then .finite (s && t) .zero
      else ofUnits (decide (sum < 0)) sum.natAbs 1

/-- The rounded difference: the sum with the negated operand. -/
def sub (x y : Binary64) : Binary64 := add x y.neg

/-- The rounded product.  Zero times an infinity has none; the sign is negative exactly when the
signs differ. -/
def mul : Binary64 → Binary64 → Binary64
  | .nan, _ => .nan
  | _, .nan => .nan
  | .infinite s, .infinite t => .infinite (s != t)
  | .infinite s, .finite t b => if b.rank = 0 then .nan else .infinite (s != t)
  | .finite s a, .infinite t => if a.rank = 0 then .nan else .infinite (s != t)
  | .finite s a, .finite t b => ofUnits (s != t) (a.units * b.units) unitsPerOne

/-- The rounded quotient.  Zero over zero and infinity over infinity have none; any other division
by zero is infinite. -/
def div : Binary64 → Binary64 → Binary64
  | .nan, _ => .nan
  | _, .nan => .nan
  | .infinite _, .infinite _ => .nan
  | .infinite s, .finite t _ => .infinite (s != t)
  | .finite s _, .infinite t => .finite (s != t) .zero
  | .finite s a, .finite t b =>
      if b.rank = 0 then (if a.rank = 0 then .nan else .infinite (s != t))
      else ofUnits (s != t) (a.units * unitsPerOne) b.units

/-- What is left of the size of the first number when that of the second has been taken away as often
as possible, with the sign of the first.  It is exact, and a division by zero has none. -/
def remainder : Binary64 → Binary64 → Binary64
  | .finite s a, .finite _ b => if b.rank = 0 then .nan else ofUnits s (a.units % b.units) 1
  | .finite s a, .infinite _ => .finite s a
  | _, _ => .nan

/-- The remainder of a division whose quotient is rounded down, so that its sign is that of the
divisor: a remainder of the other sign is moved up or down by the divisor, rounded. -/
def mod (x y : Binary64) : Binary64 :=
  let rest := remainder x y
  if rest.eq zero then .finite y.isNegative .zero
  else if rest.isNegative = y.isNegative then rest
  else add rest y

instance : Add Binary64 := ⟨add⟩
instance : Sub Binary64 := ⟨sub⟩
instance : Mul Binary64 := ⟨mul⟩
instance : Div Binary64 := ⟨div⟩
instance : Mod Binary64 := ⟨mod⟩

/-- The greatest natural number whose square is at most `n`, found from the root of `n / 4`. -/
def integerRoot (n : Nat) : Nat :=
  if n = 0 then 0
  else
    let root := 2 * integerRoot (n / 4)
    if (root + 1) * (root + 1) ≤ n then root + 1 else root
termination_by n
decreasing_by omega

/-- The rounded square root.  Both zeros are their own root and a negative number has none. -/
def sqrt : Binary64 → Binary64
  | .nan => .nan
  | .infinite negative => if negative then .nan else .infinite false
  | .finite negative magnitude =>
      if magnitude.rank = 0 then .finite negative magnitude
      else if negative then .nan
      else
        let radicand := magnitude.units * unitsPerOne
        let root := integerRoot radicand
        let inexact := if root * root = radicand then 0 else 1
        ofUnits false (2 * root + inexact) 2

/-- Whether the number is a finite integer. -/
def isInteger : Binary64 → Bool
  | .finite _ magnitude => magnitude.units % unitsPerOne == 0
  | _ => false

/-- Whether the number is a finite odd integer. -/
def isOddInteger : Binary64 → Bool
  | .finite _ magnitude =>
      magnitude.units % unitsPerOne == 0 && magnitude.units / unitsPerOne % 2 == 1
  | _ => false

/-- The integer nearest to a finite number, a tie going to the even one. -/
def nearestInteger? : Binary64 → Option Int
  | .finite negative magnitude =>
      let n := roundHalfEven magnitude.units unitsPerOne
      some (if negative then -(n : Int) else n)
  | _ => none

end Reckoner.Binary64
