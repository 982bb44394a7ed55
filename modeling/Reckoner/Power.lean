import Reckoner.Binary64.Arithmetic
import Reckoner.Binary64.Elementary
import Reckoner.Failure

/-!
# Powers

Raising one number to another.  For finite operands the elementary power function decides: a NaN
result, or an infinite one with base zero, is outside the domain, and any other infinite result is
an overflow, whose sign is negative exactly for a negative base with an odd exponent.  Operands that
are not finite follow a table of limits, which has a result in every case.
-/

namespace Reckoner

open Binary64

/-- The power when an operand is an infinity or NaN.  Anything to the power zero and one to any
power are one, even for NaN. -/
def limitPower (base exponent : Binary64) : Binary64 :=
  if exponent.eq zero then ofNat 1
  else if base.isNaN then .nan
  else if exponent.isNaN then (if base.eq (ofNat 1) then ofNat 1 else .nan)
  else if base.isInfinite then
    if zero.lt exponent then (if exponent.isOddInteger then base else base.abs)
    else .finite (base.isNegative && exponent.isOddInteger) .zero
  else if base.abs.eq (ofNat 1) then ofNat 1
  else if zero.lt exponent = (ofNat 1).lt base.abs then .infinite false
  else zero

/-- The power of two numbers, or the reason why there is no real one. -/
def power (elementary : Elementary) (base exponent : Binary64) : Except DomainError Binary64 :=
  if base.isFinite && exponent.isFinite then
    match elementary.pow base exponent with
    | .nan =>
        .error (if base.eq zero then .zeroToNegativePower else .powerNotReal base exponent)
    | .infinite _ =>
        if base.eq zero then .error .zeroToNegativePower
        else
          let odd := exponent.isInteger && (exponent % ofNat 2).eq (ofNat 1)
          .ok (.infinite (base.lt zero && odd))
    | result => .ok result
  else .ok (limitPower base exponent)

end Reckoner
