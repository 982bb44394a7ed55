import Reckoner.Builtin
import Reckoner.Decimal.Layout
import Reckoner.Operator
import Reckoner.Text.Quoted

/-!
# Failures

Everything that can go wrong between the text of an expression and its value, by phase: splitting
the text into tokens, parsing the tokens, evaluating the tree.  Each cause has a stable kind, a
message, and the position it can be pinned to.

## Implementation notes

A computation in `Except (Fault ε)` stops for a cause of type `ε`, or because it was handed
something that the earlier phases never produce; the latter is a `Misuse` and has no kind.
-/

namespace Reckoner

open Text (quoted)

/-- The stable classification of failures. -/
inductive Kind where
  | unexpectedCharacter
  | malformedNumber
  | emptyExpression
  | unmatchedParenthesis
  | trailingInput
  | unknownFunction
  | arityMismatch
  | incompleteExpression
  | unexpectedToken
  | tooDeeplyNested
  | domainError
  | divisionByZero
deriving DecidableEq

/-- The published name of a kind. -/
def Kind.name : Kind → String
  | .unexpectedCharacter => "unexpected_character"
  | .malformedNumber => "malformed_number"
  | .emptyExpression => "empty_expression"
  | .unmatchedParenthesis => "unmatched_paren"
  | .trailingInput => "trailing_input"
  | .unknownFunction => "unknown_function"
  | .arityMismatch => "arity_mismatch"
  | .incompleteExpression => "incomplete_expression"
  | .unexpectedToken => "unexpected_token"
  | .tooDeeplyNested => "too_deeply_nested"
  | .domainError => "domain_error"
  | .divisionByZero => "division_by_zero"

/-- The text of a natural number. -/
def naturalText (n : Nat) : String := String.ofList (decimalDigits n)

/-- Why a text cannot be split into tokens. -/
inductive LexicalError where
  /-- A character outside the language. -/
  | unexpectedCharacter (found : Char) (position : Nat)
  /-- A digit or point that touches the end of a name. -/
  | afterName (name : String) (found : Char) (position : Nat)
  /-- A letter that touches the end of a numeral. -/
  | afterNumeral (numeral : String) (found : Char) (position : Nat)
  /-- A decimal point without digits on either side. -/
  | lonePoint (position : Nat)
  /-- A second decimal point in a numeral. -/
  | secondPoint (numeral : String) (position : Nat)
deriving DecidableEq

namespace LexicalError

/-- The kind of a lexical error. -/
def kind : LexicalError → Kind
  | .unexpectedCharacter .. | .afterName .. | .afterNumeral .. => .unexpectedCharacter
  | .lonePoint .. | .secondPoint .. => .malformedNumber

/-- The offset of the offending character. -/
def position : LexicalError → Nat
  | .unexpectedCharacter _ position => position
  | .afterName _ _ position => position
  | .afterNumeral _ _ position => position
  | .lonePoint position => position
  | .secondPoint _ position => position

/-- The message for the user. -/
def message : LexicalError → String
  | .unexpectedCharacter found _ => "Unexpected character: " ++ quoted found.toString
  | .afterName name found _ =>
      "Unexpected character after name " ++ quoted name ++ ": " ++ quoted found.toString
  | .afterNumeral numeral found _ =>
      "Unexpected character after number " ++ quoted numeral ++ ": " ++ quoted found.toString
  | .lonePoint _ => "Malformed number: '.' has no digits"
  | .secondPoint numeral _ =>
      "Malformed number: second decimal point in " ++ quoted (numeral ++ ".")

end LexicalError

/-- What the parser was looking for when it met something else. -/
inductive Expectation where
  /-- The start of an operand. -/
  | operand
  /-- The parenthesis that opens the arguments of a function. -/
  | argumentsOf (name : String)
deriving DecidableEq

/-- The words for an expectation. -/
def Expectation.text : Expectation → String
  | .operand => "Expected a number, function or '('"
  | .argumentsOf name => "Expected '(' after " ++ name

/-- The message about a call with the wrong number of arguments. -/
def argumentCountMessage (name : String) (arity given : Nat) : String :=
  name ++ "() takes exactly " ++ naturalText arity ++
    (if arity = 1 then " argument (" else " arguments (") ++ naturalText given ++ " given)"

/-- Why a list of tokens is no expression. -/
inductive SyntaxError where
  /-- There is no token at all. -/
  | emptyExpression
  /-- The tokens end where something is expected, outside all parentheses. -/
  | endOfInput (expected : Expectation) (position : Int)
  /-- The tokens end where something is expected, inside parentheses. -/
  | endInParentheses (expected : Expectation) (position : Int)
  /-- The tokens end where a parenthesis should be closed. -/
  | unclosed (opening : Int)
  /-- A closing parenthesis closes nothing. -/
  | strayClosing (position : Int)
  /-- Another token stands where something is expected. -/
  | unexpectedToken (expected : Expectation) (found : String) (position : Int)
  /-- Another token stands where a parenthesis should be closed. -/
  | expectedClosing (found : String) (position : Int)
  /-- A token follows a complete expression. -/
  | trailingInput (found : String) (position : Int)
  /-- A name is neither a function nor a constant. -/
  | unknownName (name : String) (position : Int)
  /-- A call has the wrong number of arguments. -/
  | argumentCount (name : String) (arity given : Nat) (position : Int)
  /-- The nesting exceeds the limit. -/
  | tooDeeplyNested (limit : Int) (position : Int)
deriving DecidableEq

namespace SyntaxError

/-- The kind of a syntax error. -/
def kind : SyntaxError → Kind
  | .emptyExpression => .emptyExpression
  | .endOfInput .. => .incompleteExpression
  | .endInParentheses .. | .unclosed .. | .strayClosing .. => .unmatchedParenthesis
  | .unexpectedToken .. | .expectedClosing .. => .unexpectedToken
  | .trailingInput .. => .trailingInput
  | .unknownName .. => .unknownFunction
  | .argumentCount .. => .arityMismatch
  | .tooDeeplyNested .. => .tooDeeplyNested

/-- The position of the token at fault; an empty expression has none. -/
def position? : SyntaxError → Option Int
  | .emptyExpression => none
  | .endOfInput _ position => some position
  | .endInParentheses _ position => some position
  | .unclosed opening => some opening
  | .strayClosing position => some position
  | .unexpectedToken _ _ position => some position
  | .expectedClosing _ position => some position
  | .trailingInput _ position => some position
  | .unknownName _ position => some position
  | .argumentCount _ _ _ position => some position
  | .tooDeeplyNested _ position => some position

/-- The message for the user. -/
def message : SyntaxError → String
  | .emptyExpression => "Expression is empty"
  | .endOfInput expected _ => expected.text ++ ": unexpected end of input"
  | .endInParentheses expected _ => expected.text ++ ": missing ')'"
  | .unclosed opening => "Missing ')' for '(' at position " ++ integerText opening
  | .strayClosing position => "Unmatched ')' at position " ++ integerText position
  | .unexpectedToken expected found _ => expected.text ++ ", got " ++ quoted found
  | .expectedClosing found _ => "Expected ')', got " ++ quoted found
  | .trailingInput found _ => "Unexpected input after expression: " ++ quoted found
  | .unknownName name _ => "Unknown function: " ++ name
  | .argumentCount name arity given _ => argumentCountMessage name arity given
  | .tooDeeplyNested limit _ => "Expression nesting exceeds the limit of " ++ integerText limit

end SyntaxError

/-- Why an operation has no real result. -/
inductive DomainError where
  /-- An operator gave NaN. -/
  | operatorWithoutResult (operator : Operator)
  /-- A function gave NaN. -/
  | functionWithoutResult (function : Builtin)
  /-- Zero was raised to a negative power. -/
  | zeroToNegativePower
  /-- A negative number was raised to a fractional power. -/
  | powerNotReal (base exponent : Binary64)
  /-- The square root of a negative number. -/
  | negativeSquareRoot (x : Binary64)
  /-- The factorial of a negative number. -/
  | negativeFactorial (x : Binary64)
  /-- The factorial of a number that is not close to an integer. -/
  | fractionalFactorial (x : Binary64)
  /-- A trigonometric function of an infinity. -/
  | infiniteAngle (function : Builtin) (x : Binary64)
  /-- A logarithm of zero or of a negative number. -/
  | nonPositiveLogarithm (function : Builtin) (x : Binary64)
deriving DecidableEq

/-- The message for the user. -/
def DomainError.message : DomainError → String
  | .operatorWithoutResult operator =>
      operator.symbol ++ " has no real result for these operands"
  | .functionWithoutResult function =>
      function.name ++ "() has no real result for these arguments"
  | .zeroToNegativePower => "0 cannot be raised to a negative power"
  | .powerNotReal base exponent =>
      base.operandText ++ " ^ " ++ exponent.operandText ++ " is not a real number"
  | .negativeSquareRoot x => "sqrt() of negative number " ++ x.operandText
  | .negativeFactorial x => "fact() of negative number " ++ x.operandText
  | .fractionalFactorial x => "fact() of non-integer " ++ x.operandText
  | .infiniteAngle function x => function.name ++ "() is undefined for " ++ x.operandText
  | .nonPositiveLogarithm function x =>
      function.name ++ "() of non-positive number " ++ x.operandText

/-- Why an expression tree has no value. -/
inductive EvaluationError where
  /-- A call of a name that is no function. -/
  | unknownFunction (name : String)
  /-- A call with the wrong number of arguments. -/
  | argumentCount (name : String) (arity given : Nat)
  /-- A division whose divisor is zero. -/
  | divisionByZero
  /-- An operation outside its domain. -/
  | domain (cause : DomainError)
deriving DecidableEq

namespace EvaluationError

/-- The kind of an evaluation error. -/
def kind : EvaluationError → Kind
  | .unknownFunction _ => .unknownFunction
  | .argumentCount .. => .arityMismatch
  | .divisionByZero => .divisionByZero
  | .domain _ => .domainError

/-- The message for the user. -/
def message : EvaluationError → String
  | .unknownFunction name => "Unknown function: " ++ name
  | .argumentCount name arity given => argumentCountMessage name arity given
  | .divisionByZero => "Division by zero"
  | .domain cause => cause.message

end EvaluationError

/-- Why the text of an expression has no value. -/
inductive Failure where
  /-- The text does not split into tokens. -/
  | lexical (cause : LexicalError)
  /-- The tokens are no expression. -/
  | syntactic (cause : SyntaxError)
  /-- The expression has no value. -/
  | evaluation (cause : EvaluationError)
deriving DecidableEq

namespace Failure

/-- The kind of a failure. -/
def kind : Failure → Kind
  | .lexical cause => cause.kind
  | .syntactic cause => cause.kind
  | .evaluation cause => cause.kind

/-- The message for the user. -/
def message : Failure → String
  | .lexical cause => cause.message
  | .syntactic cause => cause.message
  | .evaluation cause => cause.message

/-- The position of a failure in the text; evaluation knows none. -/
def position? : Failure → Option Int
  | .lexical cause => some cause.position
  | .syntactic cause => cause.position?
  | .evaluation _ => none

end Failure

/-- What was wrong with arguments that no earlier phase produces. -/
inductive Misuse where
  /-- A list of tokens without an end token. -/
  | missingEndToken
  /-- A number token whose text is no numeral. -/
  | unreadableNumeral (text : String)
  /-- A number divided by zero. -/
  | dividedByZero
  /-- A function of the mathematics library outside its domain. -/
  | outsideDomain
  /-- A function of the mathematics library beyond the finite numbers. -/
  | overflow
  /-- NaN rounded to an integer. -/
  | roundedNaN
  /-- An infinity rounded to an integer. -/
  | roundedInfinity
  /-- An integer that is too large for a number. -/
  | hugeInteger
  /-- The factorial of a negative integer. -/
  | negativeFactorial
  /-- NaN given for formatting. -/
  | formattedNaN
  /-- A negative number of significant digits. -/
  | negativePrecision
  /-- More significant digits than can be asked for. -/
  | hugePrecision
  /-- A number of significant digits that is too large to be read. -/
  | unreadablePrecision
deriving DecidableEq

/-- The message that describes a misuse. -/
def Misuse.message : Misuse → String
  | .missingEndToken => "Token list must end with an EOF token"
  | .unreadableNumeral text => "could not convert string to float: " ++ quoted text
  | .dividedByZero => "float division by zero"
  | .outsideDomain => "math domain error"
  | .overflow => "math range error"
  | .roundedNaN => "cannot convert float NaN to integer"
  | .roundedInfinity => "cannot convert float infinity to integer"
  | .hugeInteger => "int too large to convert to float"
  | .negativeFactorial => "factorial() not defined for negative values"
  | .formattedNaN => "NaN is not a valid result"
  | .negativePrecision => "Format specifier missing precision"
  | .hugePrecision => "precision too big"
  | .unreadablePrecision => "Too many decimal digits in format string"

/-- Why a computation stopped: a cause of its own type, or misuse. -/
inductive Fault (ε : Type) where
  /-- The computation failed for a cause of its own. -/
  | failure (cause : ε)
  /-- The computation was misused. -/
  | misuse (cause : Misuse)
deriving DecidableEq

/-- A fault with its cause seen as a cause of another type. -/
def Fault.map {ε ι : Type} (f : ε → ι) : Fault ε → Fault ι
  | .failure cause => .failure (f cause)
  | .misuse cause => .misuse cause

end Reckoner
