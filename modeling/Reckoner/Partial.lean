import Reckoner.Binary64.Arithmetic
import Reckoner.Failure

/-!
# Operations that not every number has

Some operations of the arithmetic underneath are no total functions: a quotient by zero, the sine of
an infinity, an integer too large to be converted.  Each of them stops with a misuse where it is not
defined, and it is left to its user to check the operands first.
-/

namespace Reckoner

/-- The outcome of an operation that may be misused. -/
abbrev Partial (α : Type) := Except Misuse α

namespace Partial

open Binary64

/-- The quotient of two numbers, of which the second must not be zero. -/
def quotient (x y : Binary64) : Partial Binary64 :=
  if y.eq zero then .error .dividedByZero else .ok (x / y)

/-- The square root of a number, which must not be negative. -/
def root (x : Binary64) : Partial Binary64 :=
  if x.lt zero then .error .outsideDomain else .ok x.sqrt

/-- A trigonometric function of an angle, which must not be infinite. -/
def ofAngle (f : Binary64 → Binary64) (x : Binary64) : Partial Binary64 :=
  if x.isInfinite then .error .outsideDomain else .ok (f x)

/-- A logarithm of a number, which must not be zero or negative. -/
def ofPositive (f : Binary64 → Binary64) (x : Binary64) : Partial Binary64 :=
  if x.le zero then .error .outsideDomain else .ok (f x)

/-- The exponential of a number, which must not overflow. -/
def exponential (f : Binary64 → Binary64) (x : Binary64) : Partial Binary64 :=
  if x.isFinite && (f x).isInfinite then .error .overflow else .ok (f x)

/-- The integer nearest to a number, which must be finite. -/
def nearest (x : Binary64) : Partial Int :=
  match x.nearestInteger? with
  | some n => .ok n
  | none => .error (if x.isNaN then .roundedNaN else .roundedInfinity)

/-- The number nearest to an integer, which must not be rounded to an infinity. -/
def ofInteger (n : Int) : Partial Binary64 :=
  if (ofInt n).isInfinite then .error .hugeInteger else .ok (ofInt n)

/-- The product of the integers from one to `n`. -/
def factorialNat : Nat → Nat
  | 0 => 1
  | n + 1 => (n + 1) * factorialNat n

/-- The factorial of an integer, which must not be negative. -/
def factorial (n : Int) : Partial Nat :=
  if n < 0 then .error .negativeFactorial else .ok (factorialNat n.toNat)

end Partial

end Reckoner
