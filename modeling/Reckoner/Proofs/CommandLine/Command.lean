import Reckoner.CommandLine.Command
import Reckoner.Proofs.CommandLine.Arguments

/-!
# Accepted evaluations

Which command lines ask for an evaluation, and what they ask for: the name of the command stands in
front, and each choice is what the arguments behind it say about its own option.  A precision that is
asked for lies in its range.  Asking for JSON in addition changes no other choice.
-/

namespace Reckoner.CommandLine

/-- The evaluation as it was asked for, with its response as JSON. -/
def EvaluationOptions.withJson (options : EvaluationOptions) : EvaluationOptions :=
  { options with json := true }

namespace Command

/-- The command as it was asked for, the response of an evaluation being JSON. -/
def withJson : Command → Command
  | .evaluate options => .evaluate options.withJson
  | command => command

variable {readInteger : String → Option Int} {arguments front rest : List String}
  {given later : Arguments} {options : EvaluationOptions} {command : Command}

section Choices

/-- The choices of an evaluation are what the arguments say. -/
structure Asks (readInteger : String → Option Int) (given : Arguments)
    (options : EvaluationOptions) : Prop where
  /-- The expression is the only positional argument. -/
  expression : given.positional = [options.expression]
  /-- Angles are in degrees when the option for them is given. -/
  degrees : options.degrees = given.has "degrees"
  /-- Without the option there is no precision. -/
  noPrecision : given.value? "precision" = none → options.precision = none
  /-- With the option, the precision is the integer that its value stands for, which is in range. -/
  precision : ∀ text, given.value? "precision" = some text → ∃ n,
    readInteger text = some n ∧ (1 ≤ n ∧ n ≤ Settings.greatestPrecision) ∧
      options.precision = some n
  /-- The response is JSON when the option for it is given. -/
  json : options.json = given.has "json"
  /-- The settings file is the value of its option. -/
  config : options.config = given.value? "config"
  /-- Everything is logged when the option for it is given. -/
  verbose : options.verbose = given.has "verbose"

/-- An option that stands for an integer is absent, or its value stands for an integer in range. -/
theorem integerOption?_eq_some {α : Type} {name : String} {greatest : Int} {absent value : α}
    {present : Int → α}
    (asked : integerOption? readInteger given name greatest absent present = some value) :
    (given.value? name = none ∧ value = absent) ∨
      ∃ text n, given.value? name = some text ∧ readInteger text = some n ∧
        (1 ≤ n ∧ n ≤ greatest) ∧ value = present n := by
  unfold integerOption? at asked
  split at asked
  · rename_i none
    cases asked
    exact .inl ⟨none, rfl⟩
  · rename_i text found
    obtain ⟨n, read, asked⟩ := Option.bind_eq_some_iff.1 asked
    split at asked
    · rename_i range
      cases asked
      exact .inr ⟨text, n, found, read, range, rfl⟩
    · cases asked

theorem asks_of_evaluation? (asked : evaluation? readInteger given = some command) :
    ∃ options, command = .evaluate options ∧ Asks readInteger given options := by
  unfold evaluation? at asked
  split at asked
  · rename_i expression positional
    obtain ⟨precision, found, asked⟩ := Option.bind_eq_some_iff.1 asked
    cases asked
    refine ⟨_, rfl, positional, rfl, ?_, ?_, rfl, rfl, rfl⟩
    · intro none
      rcases integerOption?_eq_some found with ⟨-, absent⟩ | ⟨text, n, some, -⟩
      · exact absent
      · cases none.symm.trans some
    · intro text some
      rcases integerOption?_eq_some found with ⟨none, -⟩ | ⟨_, n, same, read, range, present⟩
      · cases none.symm.trans some
      · cases same.symm.trans some
        exact ⟨n, read, range, present⟩
  · cases asked

end Choices

section Names

/-- A command is built from arguments that are read and do not ask for help. -/
theorem build?_eq_some {specs : List OptionSpec} {build : Arguments → Option Command}
    (asked : build? specs arguments build = some command) :
    ∃ given, Arguments.read? specs true arguments = some given ∧
      ((given.has "help" = true ∧ command = .help) ∨
        given.has "help" = false ∧ build given = some command) := by
  obtain ⟨given, read, asked⟩ := Option.bind_eq_some_iff.1 asked
  refine ⟨given, read, ?_⟩
  split at asked
  · rename_i help
    cases asked
    exact .inl ⟨help, rfl⟩
  · rename_i help
    exact .inr ⟨Bool.eq_false_iff.2 help, asked⟩

end Names

section Json

/-- A command line that starts with the name of the command asks for what the rest says. -/
theorem ofArguments?_evaluation :
    ofArguments? readInteger ("eval" :: rest) =
      build? evaluationOptions rest (evaluation? readInteger) := by
  have letters : "eval".toList = ['e', 'v', 'a', 'l'] := by decide
  have plain : "eval".startsWith "-" = false := by decide +kernel
  have read : Arguments.read? globalOptions false ("eval" :: rest) = some ⟨[], "eval" :: rest⟩ := by
    rw [Arguments.read?_positional (by simp [letters]) (by simp [letters]) (by simp [letters])]
    rfl
  rw [ofArguments?, read]
  show (ofOptions? []).or (ofRest? readInteger ("eval" :: rest)) = _
  rw [ofOptions?, Option.none_or, ofRest?, plain]
  rfl

/-- One more option among the arguments that asks for JSON changes nothing else that they say. -/
theorem evaluation?_insert :
    evaluation? readInteger (given.append (later.withOption "json" "")) =
      (evaluation? readInteger (given.append later)).map withJson := by
  have precision : integerOption? readInteger (given.append (later.withOption "json" ""))
      "precision" Settings.greatestPrecision none some =
        integerOption? readInteger (given.append later) "precision" Settings.greatestPrecision none
          some := by
    rw [integerOption?, integerOption?, Arguments.value?_insert (by decide)]
  have degrees : (given.append (later.withOption "json" "")).has "degrees" =
      (given.append later).has "degrees" := Arguments.has_insert (by decide)
  have verbose : (given.append (later.withOption "json" "")).has "verbose" =
      (given.append later).has "verbose" := Arguments.has_insert (by decide)
  have config : (given.append (later.withOption "json" "")).value? "config" =
      (given.append later).value? "config" := Arguments.value?_insert (by decide)
  have positional : (given.append (later.withOption "json" "")).positional =
      (given.append later).positional := rfl
  unfold evaluation?
  rw [precision, degrees, verbose, config, positional, Arguments.has_inserted]
  generalize integerOption? readInteger _ _ _ _ _ = precision
  split
  · cases precision <;> rfl
  · rfl

/-- The option that asks for JSON may stand wherever an option may stand; the command line then
asks for the same command with its response as JSON. -/
theorem ofArguments?_insert (whole : Arguments.read? evaluationOptions true front = some given)
    (unended : "--" ∉ front) :
    ofArguments? readInteger ("eval" :: (front ++ "--json" :: rest)) =
      (ofArguments? readInteger ("eval" :: (front ++ rest))).map withJson := by
  have letters : "--json".toList = '-' :: '-' :: ['j', 's', 'o', 'n'] := by decide
  have parts : Arguments.splitLong ['j', 's', 'o', 'n'] = ("json", none) := by decide
  have known : evaluationOptions.find? (·.name = "json") = some ⟨"json", none, false⟩ := by
    simp [evaluationOptions]
  have option : Arguments.read? evaluationOptions true ("--json" :: rest) =
      (Arguments.read? evaluationOptions true rest).map (Arguments.withOption "json" "") :=
    Arguments.read?_flag letters nofun parts known rfl
  rw [ofArguments?_evaluation, ofArguments?_evaluation, build?, build?,
    Arguments.read?_append whole unended, Arguments.read?_append whole unended, option]
  cases Arguments.read? evaluationOptions true rest with
  | none => rfl
  | some later =>
      show (if _ then _ else _) = Option.map withJson (if _ then _ else _)
      rw [Arguments.has_insert (by decide), evaluation?_insert]
      split <;> rfl

end Json

end Command

end Reckoner.CommandLine
