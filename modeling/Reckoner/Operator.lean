/-!
# Binary operators

The five operators that stand between two operands, and their symbols.
-/

namespace Reckoner

/-- A binary operator of the expression language. -/
inductive Operator where
  /-- Addition. -/
  | add
  /-- Subtraction. -/
  | sub
  /-- Multiplication. -/
  | mul
  /-- Division. -/
  | div
  /-- Exponentiation. -/
  | pow
deriving DecidableEq

/-- The symbol of an operator. -/
def Operator.symbol : Operator → String
  | .add => "+"
  | .sub => "-"
  | .mul => "*"
  | .div => "/"
  | .pow => "^"

end Reckoner
