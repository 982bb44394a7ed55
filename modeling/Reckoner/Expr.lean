import Reckoner.Binary64.Basic
import Reckoner.Operator

/-!
# Expression trees

The trees that parsing produces and evaluation consumes.  A call keeps the name it was written
with, because a tree made by hand may call a name that is no function.
-/

namespace Reckoner

/-- An expression. -/
inductive Expr where
  /-- A numeral, as the number it denotes. -/
  | number (value : Binary64)
  /-- A named constant with its value. -/
  | constant (name : String) (value : Binary64)
  /-- The negation of an operand. -/
  | negate (operand : Expr)
  /-- Two operands around an operator. -/
  | binary (operator : Operator) (left right : Expr)
  /-- A call of a function by name. -/
  | call (name : String) (arguments : List Expr)

instance : Inhabited Expr := ⟨.number .zero⟩

end Reckoner
