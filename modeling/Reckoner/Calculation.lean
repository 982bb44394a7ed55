import Reckoner.Expr.Evaluation
import Reckoner.Expr.Parsing

/-!
# Calculations

From the text of an expression to its value: the text is split into tokens, the tokens are parsed
under the nesting limit of the settings, and the tree is evaluated.
-/

namespace Reckoner

/-- The value of an expression given as tokens. -/
def calculateTokens (context : Context) (tokens : List Token) : Except (Fault Failure) Binary64 :=
  do
    let expr ← (Expr.ofTokens context.settings.maxDepth tokens).mapError (Fault.map .syntactic)
    (expr.evaluate context).mapError (Fault.map .evaluation)

/-- The value of an expression given as text. -/
def calculate (context : Context) (source : String) : Except (Fault Failure) Binary64 := do
  let expr ← Expr.parse context.settings.maxDepth source
  (expr.evaluate context).mapError (Fault.map .evaluation)

end Reckoner
