import Reckoner.Binary64.Arithmetic
import Reckoner.Decimal.Layout
import Reckoner.Expr

/-!
# Written expressions

The canonical text of an expression: every operation stands in parentheses, and a numeral is written
as an integer when it is a small one, else in its shortest form.

## Implementation notes

A chain of operations leans to the left and may be long.  `writeChain` walks down its left operands
while it counts the parentheses to open and collects what follows each operand, so that its depth is
bounded by the nesting on the right.  `listOnto` lists the nodes in the same way.
-/

namespace Reckoner

namespace Binary64

/-- Integers of smaller magnitude are written without a point. -/
def integerTextEnd : Binary64 := ofNat (Nat.pow 10 16)

/-- The text of a number: the digits alone for an integer below `10 ^ 16`, else the shortest text. -/
def plainText (x : Binary64) : String :=
  match x.nearestInteger? with
  | some n => if x.isInteger && x.abs.lt integerTextEnd then integerText n else x.shortestText
  | none => x.shortestText

end Binary64

namespace Expr

/-- What follows the left operand of an operation. -/
def closing (operator : Operator) (right : List Char) : List Char :=
  ' ' :: operator.symbol.toList ++ ' ' :: right ++ [')']

mutual

/-- The text of an expression that `opened` parentheses precede and the texts `pending` follow. -/
def writeChain : Expr → (opened : Nat) → (pending : List (List Char)) → List Char
  | .binary operator left right, opened, pending =>
      writeChain left (opened + 1) (closing operator (writeChain right 0 []) :: pending)
  | .number value, opened, pending =>
      List.replicate opened '(' ++ value.plainText.toList ++ pending.flatten
  | .constant name _, opened, pending => List.replicate opened '(' ++ name.toList ++ pending.flatten
  | .negate operand, opened, pending =>
      List.replicate opened '(' ++ '(' :: '-' :: writeChain operand 0 [] ++ ')' :: pending.flatten
  | .call name arguments, opened, pending =>
      List.replicate opened '(' ++ name.toList ++ '(' :: writeArguments arguments ++
        ')' :: pending.flatten

/-- The texts of arguments, separated by commas. -/
def writeArguments : List Expr → List Char
  | [] => []
  | [argument] => writeChain argument 0 []
  | argument :: next :: others =>
      writeChain argument 0 [] ++ ',' :: ' ' :: writeArguments (next :: others)

end

/-- The canonical text of an expression. -/
def text (expr : Expr) : String := String.ofList (writeChain expr 0 [])

/-- One node of an expression, without its operands. -/
inductive Node where
  /-- A number. -/
  | number (value : Binary64)
  /-- A constant. -/
  | constant (name : String) (value : Binary64)
  /-- A negation. -/
  | negate
  /-- A binary operation. -/
  | binary (operator : Operator)
  /-- A call with the number of its arguments. -/
  | call (name : String) (argumentCount : Nat)
deriving DecidableEq

mutual

/-- The nodes of an expression, operands first, in front of further nodes. -/
def listOnto : Expr → List Node → List Node
  | .number value, later => .number value :: later
  | .constant name value, later => .constant name value :: later
  | .negate operand, later => listOnto operand (.negate :: later)
  | .binary operator left right, later => listOnto left (listOnto right (.binary operator :: later))
  | .call name arguments, later => listAllOnto arguments (.call name arguments.length :: later)

/-- The nodes of several expressions in front of further nodes. -/
def listAllOnto : List Expr → List Node → List Node
  | [], later => later
  | expr :: others, later => listOnto expr (listAllOnto others later)

end

/-- The nodes of an expression in postfix order, which determines the expression. -/
def postfixNodes (expr : Expr) : List Node := listOnto expr []

end Expr

end Reckoner
