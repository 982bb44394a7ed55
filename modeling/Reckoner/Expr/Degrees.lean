import Reckoner.Expr.Evaluation

/-!
# Degrees as part of the expression

Degrees as a property of the expression rather than of the settings: the argument of every
trigonometric function is multiplied by the number of radians in a degree.
-/

namespace Reckoner.Expr

/-- The names of the trigonometric functions. -/
def trigonometric : List String := [Builtin.sin.name, Builtin.cos.name, Builtin.tan.name]

/-- The product of an expression and the number of radians in a degree. -/
def scaledToRadians (expr : Expr) : Expr :=
  .binary .mul expr (.constant "degree" Builtin.radiansPerDegree)

mutual

/-- The expression that means in radians what the given one means in degrees. -/
def inDegrees : Expr → Expr
  | .number value => .number value
  | .constant name value => .constant name value
  | .negate operand => .negate (inDegrees operand)
  | .binary operator left right => .binary operator (inDegrees left) (inDegrees right)
  | .call name arguments =>
      if trigonometric.contains name then
        .call name ((inDegreesAll arguments).map scaledToRadians)
      else .call name (inDegreesAll arguments)

/-- The expressions that mean in radians what the given ones mean in degrees. -/
def inDegreesAll : List Expr → List Expr
  | [] => []
  | expr :: others => inDegrees expr :: inDegreesAll others

end

end Reckoner.Expr
