import Reckoner.CommandLine.Command
import Reckoner.CommandLine.Host
import Reckoner.Expr.Rendering
import Reckoner.Marker
import Reckoner.Request
import Reckoner.Settings.File
import Reckoner.Table
import Reckoner.Text.ControlSequence

/-!
# Running commands

What a command prints and how it exits, as a function of what it finds and of the settings file that
it reads.  A failed expression exits with one, a settings file that cannot be used exits with two.
What is caught nowhere ends the run with one as well.
-/

namespace Reckoner.CommandLine

/-- What a run of the program leaves behind. -/
structure Report where
  /-- The exit code. -/
  exitCode : Nat
  /-- The text on standard output. -/
  output : String
  /-- The text on standard error. -/
  errors : String
deriving DecidableEq

/-- The version of the program. -/
def programVersion : String := "0.1.0"

/-- The name of the settings file that is used unless another one is chosen. -/
def defaultFile : String := "scicalc.toml"

/-- The environment variable that chooses a settings file. -/
def fileVariable : String := "SCICALC_CONFIG"

namespace Report

/-- A run that succeeds and prints a text. -/
def success (output : String) : Report := ⟨0, output, ""⟩

/-- The lines that report a failure; the marker stands in front when the position is known, and does
not steer the terminal. -/
def failureText (source : String) (cause : Failure) : String :=
  (cause.position?.elim "" fun position =>
      Text.withoutControlSequences (Marker.text source position) ++ "\n") ++
    "Error [" ++ cause.kind.name ++ "]: " ++ cause.message ++ "\n"

/-- A run that ends with a failed expression. -/
def ofFailure (source : String) (cause : Failure) : Report := ⟨1, "", failureText source cause⟩

/-- A run that ends because of something that is caught nowhere; of the trace only the message is
told. -/
def crash (message : String) : Report := ⟨1, "", message ++ "\n"⟩

/-- A run that ends because the engine was misused, which no expression given as text does. -/
def ofMisuse (cause : Misuse) : Report := crash cause.message

/-- A run that ends because of a fault. -/
def ofFault (source : String) : Fault Failure → Report
  | .failure cause => ofFailure source cause
  | .misuse cause => ofMisuse cause

/-- A run that ends with a response as JSON. -/
def ofResponse (response : Response) : Report :=
  let exitCode :=
    match response with
    | .result _ => 0
    | .failure .. => 1
  ⟨exitCode, response.json ++ "\n", ""⟩

/-- A run that ends because the settings file cannot be used. -/
def ofLoadError (cause : LoadError) : Report :=
  if cause.isReported then ⟨2, "", "Error loading configuration: " ++ cause.message⟩
  else crash cause.message

/-- A run with a command line that is rejected. -/
def usage : Report := ⟨2, "", "usage"⟩

end Report

namespace EvaluationOptions

/-- The settings file of an evaluation: the one given as an option, else the one named by a variable
that is not empty, else the default. -/
def file (options : EvaluationOptions) (variableValue : Option String) : String :=
  match options.config, variableValue with
  | some path, _ => path
  | none, some path => if path.isEmpty then defaultFile else path
  | none, none => defaultFile

/-- The settings of an evaluation: those of the file, with the options in place of its fields. -/
def override (options : EvaluationOptions) (settings : Settings) : Settings :=
  { settings with
    angleUnit := if options.degrees then .degrees else settings.angleUnit
    precision := options.precision.or settings.precision }

/-- Evaluates the expression under given settings. -/
def run (options : EvaluationOptions) (context : Context) : Report :=
  if options.json then
    match (Request.mk options.expression).respond context with
    | .ok response => .ofResponse response
    | .error cause => .ofMisuse cause
  else
    match calculate context options.expression with
    | .error fault => .ofFault options.expression fault
    | .ok value =>
        match Answer.text context.settings.precision value with
        | .ok text => .success (text ++ "\n")
        | .error cause => .ofMisuse cause

/-- What is wrong with the level of logging, which is not asked for when everything is logged. -/
def levelError? (options : EvaluationOptions) (level : Option String) : Option String :=
  if options.verbose then none else level.bind Logging.levelError?

/-- Sets up logging and evaluates the expression under the settings in a file. -/
def runWithFile (options : EvaluationOptions) (host : Host) (content : FileContent) : Report :=
  match options.levelError? host.level with
  | some message => .crash message
  | none =>
      match Settings.ofFile content with
      | .error cause => .ofLoadError cause
      | .ok settings => options.run ⟨host.elementary, options.override settings⟩

end EvaluationOptions

/-- The table of the tokens of an expression. -/
def tokenTable (tokens : List Token) : Table where
  title := "Tokens"
  columns := [⟨"Kind", .left⟩, ⟨"Value", .left⟩, ⟨"Position", .right⟩]
  rows := tokens.map fun token => [token.kind.label.toUpper, token.text, integerText token.position]

/-- The table of the built-in functions. -/
def functionTable : Table where
  title := "Functions"
  columns := [⟨"Name", .left⟩, ⟨"Arity", .right⟩, ⟨"Description", .left⟩]
  rows := Builtin.all.map fun function =>
    [function.name, naturalText function.arity, function.description]

/-- The line that lists the constants. -/
def constantLine : String :=
  "Constants: " ++ ", ".intercalate
    (Constant.all.map fun constant => constant.name ++ " = " ++ constant.value.shortestText) ++ "\n"

/-- The summary of the commands. -/
def helpText : String :=
  "Usage: scicalc [--version] eval|tokens|parse|functions [OPTIONS] [EXPRESSION]"

namespace Command

/-- The settings file that a command reads, given the value of the variable that may name it. -/
def file? (command : Command) (variableValue : Option String) : Option String :=
  match command with
  | .evaluate options => some (options.file variableValue)
  | _ => none

/-- Runs a command with the content of its settings file. -/
def run (host : Host) (content : FileContent) : Command → Report
  | .version => .success ("scicalc version " ++ programVersion)
  | .help => .success helpText
  | .evaluate options => options.runWithFile host content
  | .tokens expression =>
      match Token.scan expression with
      | .error cause => .ofFailure expression (.lexical cause)
      | .ok found => .success (tokenTable found).render
  | .parse expression maxDepth =>
      match Expr.parse maxDepth expression with
      | .error fault => .ofFault expression fault
      | .ok expr => .success (expr.text ++ "\n")
  | .functions => .success (functionTable.render ++ constantLine)

end Command

/-- Runs the program on a command line.  The settings file is looked up by name only when the
command reads one. -/
def run (host : Host) (variableValue : Option String) (lookup : String → FileContent)
    (arguments : List String) : Report :=
  match Command.ofArguments? host.readInteger arguments with
  | none => .usage
  | some command =>
      command.run host (((command.file? variableValue).map lookup).getD .missing)

end Reckoner.CommandLine
