import Reckoner.Answer
import Reckoner.Calculation
import Reckoner.Data
import Reckoner.Text.JsonString

/-!
# Requests and responses

A request is a table whose only entry is the expression to evaluate.  Every request has a response:
the text of the value, or the failure with its kind, its detail and its position.
-/

namespace Reckoner

/-- What is wrong with a request. -/
inductive RequestError where
  /-- The request is no table. -/
  | notTable
  /-- The expression is missing. -/
  | missingExpression
  /-- The expression is no text. -/
  | expressionNotText
  /-- There is an entry besides the expression. -/
  | unknownField
deriving DecidableEq

/-- The message for the user. -/
def RequestError.message : RequestError → String
  | .notTable => "Input should be a valid dictionary or instance of CalculationRequest"
  | .missingExpression => "Field required"
  | .expressionNotText => "Input should be a valid string"
  | .unknownField => "Extra inputs are not permitted"

/-- A request to evaluate an expression. -/
structure Request where
  /-- The text of the expression. -/
  expression : String

namespace Request

/-- The name of the entry that holds the expression. -/
def expressionField : String := "expression"

/-- The errors about entries besides the expression. -/
def unknownFields (entries : List (String × Data)) : List RequestError :=
  (entries.filter fun entry => entry.1 != expressionField).map fun _ => .unknownField

/-- The request that structured data describes, or everything that is wrong with it. -/
def ofData : Data → Except (List RequestError) Request
  | .table entries =>
      match entries.lookup expressionField, unknownFields entries with
      | some (.text expression), [] => .ok ⟨expression⟩
      | some (.text _), unknown => .error unknown
      | some _, unknown => .error (.expressionNotText :: unknown)
      | none, unknown => .error (.missingExpression :: unknown)
  | _ => .error [.notTable]

end Request

/-- The response to a request. -/
inductive Response where
  /-- The text of the value. -/
  | result (text : String)
  /-- The failure, classified by its kind. -/
  | failure (kind detail : String) (position : Option Int)
deriving DecidableEq

namespace Response

/-- The kind of failure of a request that is no request. -/
def invalidRequest : String := "invalid_request"

/-- The response to a request that is none. -/
def ofRequestErrors (errors : List RequestError) : Response :=
  .failure invalidRequest ("; ".intercalate (errors.map (·.message))) none

/-- The response that reports a failure. -/
def ofFailure (cause : Failure) : Response :=
  .failure cause.kind.name cause.message cause.position?

/-- The response as a JSON object. -/
def json : Response → String
  | .result text => "\x7b\"result\": " ++ Text.jsonString text ++ "\x7d"
  | .failure kind detail position =>
      "\x7b\"error\": " ++ Text.jsonString kind ++ ", \"detail\": " ++ Text.jsonString detail ++
        ", \"position\": " ++ (position.elim "null" integerText) ++ "\x7d"

end Response

namespace Request

/-- The response to a request. -/
def respond (context : Context) (request : Request) : Except Misuse Response :=
  match calculate context request.expression with
  | .error (.failure cause) => .ok (.ofFailure cause)
  | .error (.misuse cause) => .error cause
  | .ok value => (Answer.text context.settings.precision value).map .result

/-- The response to structured data that may be a request. -/
def handle (context : Context) (payload : Data) : Except Misuse Response :=
  match ofData payload with
  | .error errors => .ok (.ofRequestErrors errors)
  | .ok request => request.respond context

end Request

end Reckoner
