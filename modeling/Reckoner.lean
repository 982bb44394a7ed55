import Reckoner.Expr.Degrees
import Reckoner.Expr.Grammar
import Reckoner.Expr.Meaning
import Reckoner.Expr.Size
import Reckoner.Expr.Walk
import Reckoner.Main
import Reckoner.Token.Balance
import Reckoner.Token.Spelling
import Reckoner.Proofs.Expr.Meaning
import Reckoner.Proofs.Outcome
import Reckoner.Proofs.Builtin
import Reckoner.Proofs.Parsing.Scope
import Reckoner.Proofs.Parsing.Soundness
import Reckoner.Proofs.Parsing.Completeness
import Reckoner.Proofs.Parsing.Grammar
import Reckoner.Proofs.Token.Lexeme
import Reckoner.Proofs.Binary64.Arithmetic
import Reckoner.Proofs.Calculation
import Reckoner.Proofs.Request
import Reckoner.Proofs.Token.Words
import Reckoner.Proofs.Parsing.Phrase
import Reckoner.Proofs.Composition
import Reckoner.Proofs.Decimal.Digits
import Reckoner.Proofs.Decimal.Shortest
import Reckoner.Proofs.Decimal.Layout
import Reckoner.Proofs.Decimal.PlainText
import Reckoner.Proofs.Expr.Rendering
import Reckoner.Proofs.Parsing.Misnomer
import Reckoner.Proofs.RoundTrip
import Reckoner.Proofs.Parsing.Blame
import Reckoner.Proofs.Parsing.Continuation
import Reckoner.Proofs.Parsing.Offender
import Reckoner.Proofs.Parsing.Lockstep
import Reckoner.Proofs.Layout
import Reckoner.Proofs.Frames
import Reckoner.Proofs.Text.Line
import Reckoner.Proofs.Decimal.Characters
import Reckoner.Proofs.Messages
import Reckoner.Proofs.Answer
import Reckoner.Proofs.Settings.Validation
import Reckoner.Proofs.Toml.Document
import Reckoner.Proofs.Settings.File
import Reckoner.Proofs.CommandLine.Arguments
import Reckoner.Proofs.CommandLine.Command
import Reckoner.Proofs.CommandLine.Settings
import Reckoner.Proofs.CommandLine.Modes
import Reckoner.Proofs.Token.Stop
import Reckoner.Proofs.Parsing.Parentheses
import Reckoner.Proofs.Precision
import Reckoner.Proofs.Answer.Order
import Reckoner.Proofs.Answer.Canonical
import Reckoner.Proofs.Factorial
import Reckoner.Proofs.Expr.Degrees
import Reckoner.Proofs.Expr.Guards
import Reckoner.Proofs.Expr.Influence
import Reckoner.Proofs.Power
import Reckoner.Proofs.Expr.Power
import Reckoner.Proofs.Expr.NotANumber
import Reckoner.Proofs.Position
import Reckoner.Proofs.Marker
import Reckoner.Proofs.Expr.Readability
import Reckoner.Proofs.Parsing.Nesting
import Reckoner.Proofs.Walk.Trail
import Reckoner.Proofs.Walk.Steps
import Reckoner.Proofs.Walk.Rules
import Reckoner.Proofs.Walk.Safety
import Reckoner.Proofs.Walk.Counters
