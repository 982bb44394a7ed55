import Reckoner.Expr
import Reckoner.Partial
import Reckoner.Power
import Reckoner.Settings

/-!
# Evaluating expressions

The value of an expression under given settings.  Operands are evaluated from left to right, each
operation checks its domain as soon as its operands are known, and the first failure is the outcome.
NaN that an operation produces is a failure; NaN that stands in a tree passes through.

## Implementation notes

A chain of operations leans to the left and may be long.  `evaluateChain` walks down its left
operands and keeps, for every operation passed, a link that evaluates the right operand and applies
the operator; the links are then followed from the innermost outwards.
-/

namespace Reckoner

/-- The outcome of evaluating an expression. -/
abbrev Evaluated (α : Type) := Except (Fault EvaluationError) α

/-- The outcome that reports an operation outside its domain. -/
def outsideDomain {α : Type} (cause : DomainError) : Evaluated α :=
  .error (.failure (.domain cause))

/-- A result that has to be a number. -/
def realOr (cause : DomainError) (x : Binary64) : Evaluated Binary64 :=
  if x.isNaN then outsideDomain cause else .ok x

/-- An outcome of the power function as an outcome of evaluation. -/
def ofPower : Except DomainError Binary64 → Evaluated Binary64
  | .error cause => outsideDomain cause
  | .ok x => .ok x

/-- The outcome of an operation that the checks before it are there for: a misuse of the operation is
one of the evaluation. -/
def Partial.checked {α : Type} (outcome : Partial α) : Evaluated α := outcome.mapError .misuse

/-- The surroundings of an evaluation. -/
structure Context where
  /-- The elementary functions to use. -/
  elementary : Elementary
  /-- The settings of the engine. -/
  settings : Settings

namespace Builtin

open Binary64

/-- The number of radians in a degree. -/
def radiansPerDegree : Binary64 := Constant.pi.value / Binary64.ofNat 180

/-- An angle in radians. -/
def toRadians (settings : Settings) (x : Binary64) : Binary64 :=
  match settings.angleUnit with
  | .radians => x
  | .degrees => x * radiansPerDegree

/-- A trigonometric function of an angle, which has to be finite. -/
def ofAngle (settings : Settings) (function : Builtin) (f : Binary64 → Binary64) (x : Binary64) :
    Evaluated Binary64 :=
  if x.isInfinite then outsideDomain (.infiniteAngle function x)
  else (Partial.ofAngle f (toRadians settings x)).checked

/-- Factorials of larger integers exceed every finite number. -/
def greatestFactorial : Int := 170

/-- The factorial of the integer nearest to a number, from which the number may differ by the
tolerance of the settings. -/
def factorialOf (settings : Settings) (x : Binary64) : Evaluated Binary64 :=
  if x.lt zero then outsideDomain (.negativeFactorial x)
  else if x.isInfinite then .ok (.infinite false)
  else do
    let n ← (Partial.nearest x).checked
    let nearest ← (Partial.ofInteger n).checked
    if settings.integerTolerance.lt (x - nearest).abs then
      outsideDomain (.fractionalFactorial x)
    else if greatestFactorial < n then .ok (.infinite false)
    else
      let product ← (Partial.factorial n).checked
      (Partial.ofInteger product).checked

/-- A logarithm of a number, which has to be positive. -/
def ofPositive (function : Builtin) (f : Binary64 → Binary64) (x : Binary64) :
    Evaluated Binary64 :=
  if x.le zero then outsideDomain (.nonPositiveLogarithm function x)
  else (Partial.ofPositive f x).checked

/-- The exponential of a number, which is infinite where it overflows. -/
def exponential (f : Binary64 → Binary64) (x : Binary64) : Evaluated Binary64 :=
  match Partial.exponential f x with
  | .error .overflow => .ok (.infinite false)
  | outcome => outcome.checked

/-- A function of one argument; the power, which has two, is none. -/
def applyOne (context : Context) (function : Builtin) (x : Binary64) : Evaluated Binary64 :=
  match function with
  | .sqrt =>
      if x.lt zero then outsideDomain (.negativeSquareRoot x) else (Partial.root x).checked
  | .fact => factorialOf context.settings x
  | .sin => ofAngle context.settings .sin context.elementary.sin x
  | .cos => ofAngle context.settings .cos context.elementary.cos x
  | .tan => ofAngle context.settings .tan context.elementary.tan x
  | .log => ofPositive .log context.elementary.log10 x
  | .ln => ofPositive .ln context.elementary.ln x
  | .exp => exponential context.elementary.exp x
  | .pow => .error (.failure (.argumentCount Builtin.pow.name Builtin.pow.arity 1))

/-- A function applied to the values of its arguments. -/
def apply (context : Context) (function : Builtin) (arguments : List Binary64) :
    Evaluated Binary64 :=
  match function, arguments with
  | .pow, [base, exponent] => ofPower (power context.elementary base exponent)
  | function, [x] => applyOne context function x
  | function, arguments =>
      .error (.failure (.argumentCount function.name function.arity arguments.length))

end Builtin

/-- An operator applied to the values of its operands. -/
def Operator.apply (context : Context) (operator : Operator) (left right : Binary64) :
    Evaluated Binary64 := do
  let result ←
    match operator with
    | .add => .ok (left + right)
    | .sub => .ok (left - right)
    | .mul => .ok (left * right)
    | .div =>
        if right.eq .zero then .error (.failure .divisionByZero)
        else (Partial.quotient left right).checked
    | .pow => ofPower (power context.elementary left right)
  realOr (.operatorWithoutResult operator) result

namespace Expr

/-- A step of a chain: from the value on its left to the value of the operation. -/
abbrev Link := Binary64 → Evaluated Binary64

/-- Follows links from the innermost outwards. -/
def follow : List Link → Binary64 → Evaluated Binary64
  | [], value => .ok value
  | link :: links, value => do follow links (← link value)

mutual

/-- The outcome of an expression whose value the given links continue. -/
def evaluateChain (context : Context) : Expr → List Link → Evaluated Binary64
  | .number value, links => follow links value
  | .constant _ value, links => follow links value
  | .negate operand, links => do follow links (-(← evaluateChain context operand []))
  | .binary operator left right, links =>
      evaluateChain context left
        ((fun value => do operator.apply context value (← evaluateChain context right [])) :: links)
  | .call name arguments, links => do
      match Builtin.ofName? name with
      | none => .error (.failure (.unknownFunction name))
      | some function =>
          if arguments.length = function.arity then
            let values ← evaluateArguments context arguments
            let result ← function.apply context values
            follow links (← realOr (.functionWithoutResult function) result)
          else
            .error (.failure (.argumentCount function.name function.arity arguments.length))

/-- The values of arguments, evaluated from left to right. -/
def evaluateArguments (context : Context) : List Expr → Evaluated (List Binary64)
  | [] => .ok []
  | argument :: others => do
      let value ← evaluateChain context argument []
      return value :: (← evaluateArguments context others)

end

/-- The value of an expression. -/
def evaluate (context : Context) (expr : Expr) : Evaluated Binary64 :=
  evaluateChain context expr []

end Expr

end Reckoner
