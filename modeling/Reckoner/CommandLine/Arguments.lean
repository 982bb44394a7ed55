/-!
# Options and positional arguments

The conventions for reading a command line.  A long option may carry its value behind an equals
sign, short options may be joined, the last of which may carry its value directly, and otherwise a
value is the next argument.  Two dashes end the options.  Anything else that starts with a dash and
is longer than it has to be a known option.
-/

namespace Reckoner.CommandLine

/-- An option that a command knows. -/
structure OptionSpec where
  /-- The long name, without dashes. -/
  name : String
  /-- The short name, without its dash. -/
  short : Option Char
  /-- Whether the option carries a value. -/
  takesValue : Bool

/-- The arguments of a command. -/
structure Arguments where
  /-- The options with their values, in order; an option that carries none has an empty value. -/
  options : List (String × String)
  /-- The other arguments in order. -/
  positional : List String

namespace Arguments

/-- The arguments with one more option in front. -/
def withOption (name value : String) (arguments : Arguments) : Arguments :=
  { arguments with options := (name, value) :: arguments.options }

/-- The arguments with more options in front. -/
def withOptions (options : List (String × String)) (arguments : Arguments) : Arguments :=
  { arguments with options := options ++ arguments.options }

/-- The arguments with one more positional argument in front. -/
def withPositional (text : String) (arguments : Arguments) : Arguments :=
  { arguments with positional := text :: arguments.positional }

/-- Whether an option is given. -/
def has (arguments : Arguments) (name : String) : Bool := arguments.options.any (·.1 == name)

/-- The value that an option is given last. -/
def value? (arguments : Arguments) (name : String) : Option String :=
  arguments.options.reverse.lookup name

/-- The name and the value of a long option, without its dashes. -/
def splitLong (cs : List Char) : String × Option String :=
  (String.ofList (cs.takeWhile (· != '=')),
    match cs.dropWhile (· != '=') with
    | [] => none
    | _ :: value => some (String.ofList value))

/-- The options in a group of joined short options, and the option at its end that still lacks its
value. -/
def readShort? (specs : List OptionSpec) :
    List Char → Option (List (String × String) × Option String)
  | [] => some ([], none)
  | c :: rest =>
      match specs.find? (·.short = some c) with
      | none => none
      | some spec =>
          if !spec.takesValue then
            (readShort? specs rest).map fun (options, lacking) =>
              ((spec.name, "") :: options, lacking)
          else if rest.isEmpty then some ([], some spec.name)
          else some ([(spec.name, String.ofList rest)], none)

/-- Reads arguments; a command that has commands of its own takes no options behind the first
positional argument. -/
def read? (specs : List OptionSpec) (interspersed : Bool) : List String → Option Arguments
  | [] => some ⟨[], []⟩
  | argument :: rest =>
      match argument.toList with
      | ['-', '-'] => some ⟨[], rest⟩
      | '-' :: '-' :: long =>
          let (name, attached) := splitLong long
          match specs.find? (·.name = name), attached, rest with
          | none, _, _ => none
          | some spec, none, rest =>
              if !spec.takesValue then
                (read? specs interspersed rest).map (withOption spec.name "")
              else
                match rest with
                | [] => none
                | value :: rest => (read? specs interspersed rest).map (withOption spec.name value)
          | some spec, some value, rest =>
              if spec.takesValue then
                (read? specs interspersed rest).map (withOption spec.name value)
              else none
      | '-' :: c :: shorts =>
          match readShort? specs (c :: shorts), rest with
          | none, _ => none
          | some (options, none), rest => (read? specs interspersed rest).map (withOptions options)
          | some (_, some _), [] => none
          | some (options, some name), value :: rest =>
              (read? specs interspersed rest).map fun arguments =>
                (arguments.withOption name value).withOptions options
      | _ =>
          if interspersed then (read? specs interspersed rest).map (withPositional argument)
          else some ⟨[], argument :: rest⟩

end Arguments

end Reckoner.CommandLine
