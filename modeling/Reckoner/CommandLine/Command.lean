import Reckoner.CommandLine.Arguments
import Reckoner.Settings

/-!
# Commands

What a command line asks for.  A command line that asks for nothing known, gives an option it does
not know or a value out of range, or has the wrong number of arguments is rejected as a whole.
-/

namespace Reckoner.CommandLine

/-- The choices of an evaluation. -/
structure EvaluationOptions where
  /-- The expression to evaluate. -/
  expression : String
  /-- Whether angles are in degrees whatever the settings say. -/
  degrees : Bool
  /-- The number of significant digits that takes precedence over the settings. -/
  precision : Option Int
  /-- Whether the response is printed as JSON. -/
  json : Bool
  /-- The settings file to use. -/
  config : Option String
  /-- Whether everything is logged, whatever the environment says. -/
  verbose : Bool
deriving DecidableEq

/-- What a command line asks for. -/
inductive Command where
  /-- The version of the program. -/
  | version
  /-- A summary of the commands. -/
  | help
  /-- The value of an expression. -/
  | evaluate (options : EvaluationOptions)
  /-- The tokens of an expression. -/
  | tokens (expression : String)
  /-- The tree of an expression. -/
  | parse (expression : String) (maxDepth : Int)
  /-- The functions and constants. -/
  | functions
deriving DecidableEq

namespace Command

/-- The option that every command has. -/
def helpOption : OptionSpec := ⟨"help", none, false⟩

/-- The options in front of the command. -/
def globalOptions : List OptionSpec := [⟨"version", some 'V', false⟩, helpOption]

/-- The options of an evaluation. -/
def evaluationOptions : List OptionSpec :=
  [⟨"degrees", some 'd', false⟩, ⟨"precision", some 'p', true⟩, ⟨"json", none, false⟩,
    ⟨"config", some 'c', true⟩, ⟨"verbose", none, false⟩, helpOption]

/-- The options of the command that prints trees. -/
def parseOptions : List OptionSpec := [⟨"max-depth", none, true⟩, helpOption]

section Options

variable (readInteger : String → Option Int)

/-- The value of an option as an integer from one to a greatest value; an option that is not given
has the value `absent`. -/
def integerOption? {α : Type} (arguments : Arguments) (name : String) (greatest : Int) (absent : α)
    (present : Int → α) : Option α :=
  match arguments.value? name with
  | none => some absent
  | some text => do
      let n ← readInteger text
      if 1 ≤ n ∧ n ≤ greatest then some (present n) else none

/-- The arguments of a command, from which the command is built unless help is asked for. -/
def build? (specs : List OptionSpec) (arguments : List String)
    (build : Arguments → Option Command) : Option Command := do
  let arguments ← Arguments.read? specs true arguments
  if arguments.has "help" then some .help else build arguments

/-- The evaluation that arguments ask for. -/
def evaluation? (arguments : Arguments) : Option Command :=
  match arguments.positional with
  | [expression] => do
      let precision ←
        integerOption? readInteger arguments "precision" Settings.greatestPrecision none some
      return .evaluate
        { expression := expression
          degrees := arguments.has "degrees"
          precision := precision
          json := arguments.has "json"
          config := arguments.value? "config"
          verbose := arguments.has "verbose" }
  | _ => none

/-- The list of tokens that arguments ask for. -/
def tokens? (arguments : Arguments) : Option Command :=
  match arguments.positional with
  | [expression] => some (.tokens expression)
  | _ => none

/-- The tree that arguments ask for. -/
def parse? (arguments : Arguments) : Option Command :=
  match arguments.positional with
  | [expression] =>
      (integerOption? readInteger arguments "max-depth" Settings.greatestMaxDepth
        Settings.defaultMaxDepth id).map (.parse expression)
  | _ => none

/-- The list of functions that arguments ask for. -/
def functions? (arguments : Arguments) : Option Command :=
  match arguments.positional with
  | [] => some .functions
  | _ => none

/-- The command of the given name with its arguments. -/
def named? (name : String) (arguments : List String) : Option Command :=
  match name with
  | "eval" => build? evaluationOptions arguments (evaluation? readInteger)
  | "tokens" => build? [helpOption] arguments tokens?
  | "parse" => build? parseOptions arguments (parse? readInteger)
  | "functions" => build? [helpOption] arguments functions?
  | _ => none

/-- The command that the first of the options in front of the command asks for. -/
def ofOptions? : List (String × String) → Option Command
  | [] => none
  | (name, _) :: _ => some (if name = "version" then .version else .help)

/-- The command that the remaining arguments ask for.  Two dashes may stand in front of them; a name
that starts with a dash is then read as options once more. -/
def ofRest? (arguments : List String) : Option Command :=
  match arguments with
  | [] => none
  | name :: rest =>
      if name.startsWith "-" then do
        let again ← Arguments.read? globalOptions false arguments
        ofOptions? again.options
      else named? readInteger name rest

/-- What a command line asks for. -/
def ofArguments? (arguments : List String) : Option Command := do
  let arguments ← Arguments.read? globalOptions false arguments
  (ofOptions? arguments.options).or (ofRest? readInteger arguments.positional)

end Options

end Command

end Reckoner.CommandLine
