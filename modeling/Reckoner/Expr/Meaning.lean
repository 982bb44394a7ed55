import Reckoner.Expr.Evaluation
import Reckoner.Expr.Rendering

/-!
# Meaning and text by recursion on the tree

The value and the canonical text of an expression, defined by plain recursion on its structure: the
value of an operation is found from the values of its operands, evaluated from left to right, and
its text from their texts.
-/

namespace Reckoner.Expr

mutual

/-- The value of an expression, or the first failure on the way from left to right. -/
def meaning (context : Context) : Expr → Evaluated Binary64
  | .number value => .ok value
  | .constant _ value => .ok value
  | .negate operand => do return -(← meaning context operand)
  | .binary operator left right => do
      let leftValue ← meaning context left
      let rightValue ← meaning context right
      operator.apply context leftValue rightValue
  | .call name arguments =>
      match Builtin.ofName? name with
      | none => .error (.failure (.unknownFunction name))
      | some function =>
          if arguments.length = function.arity then do
            let values ← meanings context arguments
            realOr (.functionWithoutResult function) (← function.apply context values)
          else
            .error (.failure (.argumentCount function.name function.arity arguments.length))

/-- The values of expressions, evaluated from left to right. -/
def meanings (context : Context) : List Expr → Evaluated (List Binary64)
  | [] => .ok []
  | expr :: others => do
      let value ← meaning context expr
      let values ← meanings context others
      return value :: values

end

mutual

/-- The canonical text of an expression. -/
def canonical : Expr → String
  | .number value => value.plainText
  | .constant name _ => name
  | .negate operand => "(-" ++ canonical operand ++ ")"
  | .binary operator left right =>
      "(" ++ canonical left ++ " " ++ operator.symbol ++ " " ++ canonical right ++ ")"
  | .call name arguments => name ++ "(" ++ ", ".intercalate (canonicals arguments) ++ ")"

/-- The canonical texts of expressions. -/
def canonicals : List Expr → List String
  | [] => []
  | expr :: others => canonical expr :: canonicals others

end

end Reckoner.Expr
