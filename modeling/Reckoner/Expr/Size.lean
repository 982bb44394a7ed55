import Reckoner.Expr

/-!
# Sizes of expressions

Two measures of how deep an expression is: its height, and the number of activations that evaluating
it holds at once when a chain of operations is followed in a loop.
-/

namespace Reckoner.Expr

mutual

/-- The number of edges on the longest path to a leaf. -/
def height : Expr → Nat
  | .number _ => 0
  | .constant _ _ => 0
  | .negate operand => height operand + 1
  | .binary _ left right => max (height left) (height right) + 1
  | .call _ arguments => heightOfAll arguments

/-- One more than the greatest height, or zero for no expression. -/
def heightOfAll : List Expr → Nat
  | [] => 0
  | expr :: others => max (height expr + 1) (heightOfAll others)

end

mutual

/-- The activations that evaluation holds at once: one for a leaf, two for a negation beside those
of its operand, three for a call beside those of an argument, and two for a chain of operations
beside those of its first operand or of a right operand. -/
def frames : Expr → Nat
  | .number _ => 1
  | .constant _ _ => 1
  | .negate operand => 2 + frames operand
  | .binary _ left right => 2 + max (chainFrames left) (frames right)
  | .call _ arguments => 3 + framesOfAll arguments

/-- The activations of the first operand and of the right operands of a chain. -/
def chainFrames : Expr → Nat
  | .number _ => 1
  | .constant _ _ => 1
  | .negate operand => 2 + frames operand
  | .binary _ left right => max (chainFrames left) (frames right)
  | .call _ arguments => 3 + framesOfAll arguments

/-- The greatest number of activations among expressions. -/
def framesOfAll : List Expr → Nat
  | [] => 0
  | expr :: others => max (frames expr) (framesOfAll others)

end

end Reckoner.Expr
