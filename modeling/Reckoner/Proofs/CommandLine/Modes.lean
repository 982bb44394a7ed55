import Reckoner.Proofs.CommandLine.Settings
import Reckoner.Proofs.Messages
import Reckoner.Proofs.Request
import Reckoner.Proofs.Token.Words

/-!
# Text and JSON agree

An evaluation says the same whether it is asked for JSON or not.  It exits with the same code; a
value is shown as the same text; and a failure is reported with the same kind, message and position.
A command line that is rejected and a settings file that cannot be used are reported before anything
is evaluated, and in the same way.  Where neither is reported but ends the program, the exit code is
that of a failure, although nothing has failed.

## Implementation notes

`Modes` lists the pairs of reports that a command line leaves behind without and with the option for
JSON, one constructor for each place at which the two runs end.  What is said about the reports is
then proved by cases on it.
-/

namespace Reckoner.CommandLine

open Text (IsLine IsShown)

variable {host : Host} {variableValue : Option String} {lookup : String → FileContent}
  {arguments front rest : List String} {options : EvaluationOptions} {context : Context}
  {settings : Settings} {value : Binary64} {shown : String} {cause : Failure} {plain json : Report}

section Runs

/-- The option for JSON does not change which settings file is used. -/
theorem file_withJson : options.withJson.file variableValue = options.file variableValue := rfl

/-- With the option for JSON, an evaluation prints the response to a request. -/
theorem run_withJson {response : Response}
    (responded : Request.respond context ⟨options.expression⟩ = .ok response) :
    options.withJson.run context = .ofResponse response := by
  rw [EvaluationOptions.run]
  dsimp only [EvaluationOptions.withJson]
  rw [responded]
  rfl

/-- A value is shown with a text of its own line, or as a JSON object with the same text. -/
theorem run_of_value (text : options.json = false)
    (calculated : calculate context options.expression = .ok value)
    (written : Answer.text context.settings.precision value = .ok shown) :
    options.run context = .success (shown ++ "\n") ∧
      options.withJson.run context = .ofResponse (.result shown) := by
  refine ⟨?_, run_withJson (Request.respond_of_value calculated written)⟩
  rw [EvaluationOptions.run, text, calculated]
  dsimp only
  rw [written]
  rfl

/-- A failure is reported with its marker and its message, or as a JSON object. -/
theorem run_of_failure (text : options.json = false)
    (failed : calculate context options.expression = .error (.failure cause)) :
    options.run context = .ofFailure options.expression cause ∧
      options.withJson.run context = .ofResponse (.ofFailure cause) := by
  refine ⟨?_, run_withJson (Request.respond_of_failure failed)⟩
  rw [EvaluationOptions.run, text, failed]
  rfl

end Runs

section Modes

/-- The command line comes to evaluate an expression: it is accepted, the level of logging can be
set, and the settings file that it asks for can be used. -/
structure Evaluates (host : Host) (variableValue : Option String) (lookup : String → FileContent)
    (arguments : List String) (options : EvaluationOptions) (settings : Settings) : Prop where
  asked : Command.ofArguments? host.readInteger arguments = some (.evaluate options)
  level : options.levelError? host.level = none
  loaded : Settings.ofFile (lookup (options.file variableValue)) = .ok settings

/-- The failure is that of the expression, calculated under the settings in force. -/
def FailsWith (host : Host) (variableValue : Option String)
    (lookup : String → FileContent) (arguments : List String) (options : EvaluationOptions)
    (cause : Failure) : Prop :=
  ∃ settings, Evaluates host variableValue lookup arguments options settings ∧
    calculate ⟨host.elementary, options.override settings⟩ options.expression =
      .error (.failure cause)

/-- The program ends because of something that is caught nowhere: the level of logging cannot be set,
or the settings file is not one of those that are answered. -/
def Crashes (host : Host) (variableValue : Option String) (lookup : String → FileContent)
    (arguments : List String) : Prop :=
  ∃ options, Command.ofArguments? host.readInteger arguments = some (.evaluate options) ∧
    (options.levelError? host.level ≠ none ∨ ¬(lookup (options.file variableValue)).IsAnswered)

/-- The reports of a command line that evaluates, without and with the option for JSON. -/
inductive Modes (host : Host) (variableValue : Option String) (lookup : String → FileContent)
    (arguments : List String) : Report → Report → Prop
  /-- The command line is rejected. -/
  | rejected : Command.ofArguments? host.readInteger arguments = none →
      Modes host variableValue lookup arguments .usage .usage
  /-- The program is ended. -/
  | crashed {message : String} : Crashes host variableValue lookup arguments →
      Modes host variableValue lookup arguments (.crash message) (.crash message)
  /-- The settings file cannot be used. -/
  | unusable {options : EvaluationOptions} {cause : LoadError} :
      Command.ofArguments? host.readInteger arguments = some (.evaluate options) →
      options.levelError? host.level = none →
      Settings.ofFile (lookup (options.file variableValue)) = .error cause →
      cause.isReported = true →
      Modes host variableValue lookup arguments (.ofLoadError cause) (.ofLoadError cause)
  /-- The expression has a value. -/
  | value {options : EvaluationOptions} {settings : Settings} {value : Binary64} {shown : String} :
      Evaluates host variableValue lookup arguments options settings →
      calculate ⟨host.elementary, options.override settings⟩ options.expression = .ok value →
      Answer.text (options.override settings).precision value = .ok shown →
      Modes host variableValue lookup arguments (.success (shown ++ "\n"))
        (.ofResponse (.result shown))
  /-- The expression fails. -/
  | failure {options : EvaluationOptions} {cause : Failure} :
      FailsWith host variableValue lookup arguments options cause →
      Modes host variableValue lookup arguments (.ofFailure options.expression cause)
        (.ofResponse (.ofFailure cause))

/-- Under settings that can be used, the two runs end with a value or with a failure. -/
theorem modes_of_evaluates {given : Arguments}
    (asks : Command.Asks host.readInteger given options) (text : options.json = false)
    (evaluates : Evaluates host variableValue lookup arguments options settings) :
    Modes host variableValue lookup arguments
      (options.run ⟨host.elementary, options.override settings⟩)
      (options.withJson.run ⟨host.elementary, options.override settings⟩) := by
  have valid := valid_override asks (Settings.valid_of_ofFile evaluates.loaded)
  have sound : Ensures _ _
      (calculate ⟨host.elementary, options.override settings⟩ options.expression) :=
    ensures_calculate
  cases outcome : calculate ⟨host.elementary, options.override settings⟩ options.expression with
  | ok value =>
      rw [outcome] at sound
      obtain ⟨shown, written⟩ := Answer.exists_text valid sound
      obtain ⟨plain, json⟩ := run_of_value text outcome written
      rw [plain, json]
      exact .value evaluates outcome written
  | error fault =>
      rw [outcome] at sound
      obtain ⟨cause, rfl⟩ := sound
      obtain ⟨plain, json⟩ := run_of_failure text outcome
      rw [plain, json]
      exact .failure ⟨settings, evaluates, outcome⟩

/-- The two reports of an evaluation that is accepted. -/
theorem modes_of_asked {given : Arguments} (asks : Command.Asks host.readInteger given options)
    (text : options.json = false)
    (asked : Command.ofArguments? host.readInteger arguments = some (.evaluate options)) :
    Modes host variableValue lookup arguments
      (options.runWithFile host (lookup (options.file variableValue)))
      (options.withJson.runWithFile host (lookup (options.file variableValue))) := by
  have same : options.withJson.levelError? host.level = options.levelError? host.level := rfl
  have sound : Ensures _ _ (Settings.ofFile (lookup (options.file variableValue))) :=
    Settings.ensures_ofFile _
  cases level : options.levelError? host.level with
  | some message =>
      rw [runWithFile_of_level level, runWithFile_of_level (same.trans level)]
      exact .crashed ⟨options, asked, .inl (by rw [level]; exact nofun)⟩
  | none =>
      cases loaded : Settings.ofFile (lookup (options.file variableValue)) with
      | error cause =>
          rw [loaded] at sound
          rw [runWithFile_of_error level loaded, runWithFile_of_error (same.trans level) loaded]
          by_cases reported : cause.isReported = true
          · exact .unusable asked level loaded reported
          · rw [ofLoadError_of_not_isReported reported]
            exact .crashed ⟨options, asked, .inr (mt sound.2 reported)⟩
      | ok settings =>
          rw [runWithFile_of_ok level loaded, runWithFile_of_ok (same.trans level) loaded]
          exact modes_of_evaluates asks text ⟨asked, level, loaded⟩

/-- The two reports of a command line that asks neither for help nor for JSON. -/
theorem modes_of_run {given : Arguments}
    (whole : Arguments.read? Command.evaluationOptions true front = some given)
    (unended : "--" ∉ front)
    (evaluates : ∀ given,
      Arguments.read? Command.evaluationOptions true (front ++ rest) = some given →
      given.has "help" = false ∧ given.has "json" = false) :
    Modes host variableValue lookup ("eval" :: (front ++ rest))
      (run host variableValue lookup ("eval" :: (front ++ rest)))
      (run host variableValue lookup ("eval" :: (front ++ "--json" :: rest))) := by
  have inserted :
      Command.ofArguments? host.readInteger ("eval" :: (front ++ "--json" :: rest)) = _ :=
    Command.ofArguments?_insert whole unended
  cases asked : Command.ofArguments? host.readInteger ("eval" :: (front ++ rest)) with
  | none =>
      rw [asked] at inserted
      rw [run, run, asked, inserted]
      exact .rejected asked
  | some command =>
      have built := Command.ofArguments?_evaluation.symm.trans asked
      obtain ⟨given, read, ⟨help, -⟩ | ⟨-, evaluation⟩⟩ := Command.build?_eq_some built
      · exact absurd help (Bool.eq_false_iff.1 (evaluates given read).1)
      · obtain ⟨options, rfl, asks⟩ := Command.asks_of_evaluation? evaluation
        have text : options.json = false := asks.json.trans (evaluates given read).2
        rw [asked] at inserted
        rw [run_of_evaluate asked, run_of_evaluate inserted, file_withJson]
        exact modes_of_asked asks text asked

end Modes

section Reports

theorem exitCode_ofLoadError {cause : LoadError} (reported : cause.isReported = true) :
    (Report.ofLoadError cause).exitCode = 2 := by
  rw [ofLoadError_of_isReported reported]

/-- A command line evaluates in one way at most. -/
theorem Evaluates.unique {options' : EvaluationOptions} {settings' : Settings}
    (h : Evaluates host variableValue lookup arguments options settings)
    (h' : Evaluates host variableValue lookup arguments options' settings') :
    options' = options ∧ settings' = settings := by
  cases h.asked.symm.trans h'.asked
  cases h.loaded.symm.trans h'.loaded
  exact ⟨rfl, rfl⟩

/-- What evaluates an expression does not end the program before. -/
theorem Evaluates.not_crashes
    (h : Evaluates host variableValue lookup arguments options settings) :
    ¬Crashes host variableValue lookup arguments := by
  rintro ⟨_, asked, wrong⟩
  cases h.asked.symm.trans asked
  have sound : Ensures _ _ (Settings.ofFile (lookup (options.file variableValue))) :=
    Settings.ensures_ofFile _
  rw [h.loaded] at sound
  exact wrong.elim (· h.level) (· sound.2)

/-- With the option for JSON, the same settings are used, or none as before. -/
theorem exists_evaluates_of_insert {given : Arguments}
    (whole : Arguments.read? Command.evaluationOptions true front = some given)
    (unended : "--" ∉ front)
    (evaluates : Evaluates host variableValue lookup ("eval" :: (front ++ "--json" :: rest)) options
      settings) :
    ∃ options, Evaluates host variableValue lookup ("eval" :: (front ++ rest)) options settings := by
  obtain ⟨inserted, level, loaded⟩ := evaluates
  rw [Command.ofArguments?_insert whole unended] at inserted
  obtain ⟨command, asked, same⟩ := Option.map_eq_some_iff.1 inserted
  cases command with
  | evaluate options =>
      cases same
      exact ⟨options, asked, level, loaded⟩
  | _ => cases same

namespace Modes

variable (h : Modes host variableValue lookup arguments plain json)

include h

theorem exitCode_eq : json.exitCode = plain.exitCode ∧ plain.exitCode ∈ [0, 1, 2] := by
  cases h with
  | rejected => exact ⟨rfl, by decide⟩
  | crashed => exact ⟨rfl, by simp [Report.crash]⟩
  | unusable _ _ _ reported =>
      rw [exitCode_ofLoadError reported]
      exact ⟨rfl, by decide⟩
  | value => exact ⟨rfl, by simp [Report.success]⟩
  | failure => exact ⟨rfl, by simp [Report.ofFailure]⟩

/-- On success both reports show the same line. -/
theorem exists_line (succeeded : plain.exitCode = 0) : ∃ shown, IsLine shown ∧
    plain.output = shown ++ "\n" ∧ plain.errors = "" ∧
    json.output = "\x7b\"result\": \"" ++ shown ++ "\"\x7d\n" := by
  cases h with
  | rejected => cases succeeded
  | crashed => cases succeeded
  | unusable _ _ _ reported => cases (exitCode_ofLoadError reported).symm.trans succeeded
  | @value _ _ _ shown _ _ written =>
      have plain := Answer.isShown_text written
      refine ⟨shown, Text.isLine_of_isShown plain, rfl, rfl, ?_⟩
      show "\x7b\"result\": " ++ Text.jsonString shown ++ "\x7d" ++ "\n" = _
      rw [Text.jsonString_of_isShown plain]
      simp [← String.toList_inj]
  | failure => cases succeeded

/-- When the calculation fails, both reports show its kind, its message and its position. -/
theorem exists_failure (fails : FailsWith host variableValue lookup arguments options cause) :
    plain.exitCode = 1 ∧ plain.output = "" ∧ IsLine cause.kind.name ∧ IsLine cause.message ∧
      plain.errors = (cause.position?.elim "" fun column =>
        Text.withoutControlSequences (Marker.text options.expression column) ++ "\n") ++
          "Error [" ++ cause.kind.name ++ "]: " ++ cause.message ++ "\n" ∧
      json.output =
        (Response.failure cause.kind.name cause.message cause.position?).json ++ "\n" := by
  obtain ⟨settings, evaluates, calculated⟩ := fails
  cases h with
  | rejected none => cases none.symm.trans evaluates.asked
  | crashed crashes => exact absurd crashes evaluates.not_crashes
  | unusable asked _ failed =>
      cases asked.symm.trans evaluates.asked
      cases failed.symm.trans evaluates.loaded
  | value evaluates' calculated' =>
      obtain ⟨rfl, rfl⟩ := evaluates.unique evaluates'
      cases calculated.symm.trans calculated'
  | @failure options' cause' fails' =>
      obtain ⟨settings', evaluates', calculated'⟩ := fails'
      obtain ⟨rfl, rfl⟩ := evaluates.unique evaluates'
      cases calculated.symm.trans calculated'
      exact ⟨rfl, rfl, cause.kind.lineBreak_not_mem_name, isLine_message_of_calculate calculated,
        rfl, rfl⟩

/-- When the program is ended, both runs end in the same way and show nothing. -/
theorem eq_crash (crashes : Crashes host variableValue lookup arguments) :
    ∃ message, plain = .crash message ∧ json = .crash message := by
  have asked := crashes
  obtain ⟨options, asked, wrong⟩ := asked
  cases h with
  | rejected none => cases none.symm.trans asked
  | @crashed message => exact ⟨message, rfl, rfl⟩
  | unusable asked' level failed reported =>
      cases asked.symm.trans asked'
      have sound : Ensures _ _ (Settings.ofFile (lookup (options.file variableValue))) :=
        Settings.ensures_ofFile _
      rw [failed, Ensures.error_iff] at sound
      exact absurd wrong (not_or.2 ⟨not_not.2 level, not_not.2 (sound.1 reported)⟩)
  | value evaluates => exact absurd crashes evaluates.not_crashes
  | failure fails =>
      obtain ⟨settings, evaluates, -⟩ := fails
      exact absurd crashes evaluates.not_crashes

/-- The exit code is one exactly when the calculation fails or the program is ended. -/
theorem exitCode_eq_one_iff : plain.exitCode = 1 ↔
    (∃ options cause, FailsWith host variableValue lookup arguments options cause) ∨
      Crashes host variableValue lookup arguments := by
  constructor
  · intro failed
    cases h with
    | rejected => cases failed
    | crashed crashes => exact .inr crashes
    | unusable _ _ _ reported => cases (exitCode_ofLoadError reported).symm.trans failed
    | value => cases failed
    | failure fails => exact .inl ⟨_, _, fails⟩
  · rintro (⟨options, cause, fails⟩ | crashes)
    · exact (h.exists_failure fails).1
    · obtain ⟨message, rfl, -⟩ := h.eq_crash crashes
      rfl

/-- Otherwise nothing is evaluated and nothing is shown. -/
theorem not_evaluates (rejected : plain.exitCode = 2) : plain.output = "" ∧ json.output = "" ∧
    ∀ options settings, ¬Evaluates host variableValue lookup arguments options settings := by
  cases h with
  | rejected none =>
      refine ⟨rfl, rfl, fun options settings evaluates => ?_⟩
      cases none.symm.trans evaluates.asked
  | crashed => cases rejected
  | @unusable _ cause asked _ failed =>
      have silent := (exitCode_ofLoadError_ne_zero cause).2
      refine ⟨silent, silent, fun options settings evaluates => ?_⟩
      cases asked.symm.trans evaluates.asked
      cases failed.symm.trans evaluates.loaded
  | value => cases rejected
  | failure => cases rejected

end Modes

end Reports

/-- The reports of the two modes of an evaluation agree.  Let arguments that ask neither for help nor
for JSON be given.  Running them with and without the option for JSON among them gives the same exit
code.  On success the text is one line, and the JSON is an object with this line as its result.  When
the calculation fails under the settings in force, the exit code is one, the last line of the errors
shows the kind and the message of the failure, as the JSON object does, and the marker precedes it
exactly when the failure, and with it the object, has a position.  When the exit code is two, nothing
is evaluated and nothing is shown.  The exit code is also one when the program is ended because the
level of logging cannot be set or the settings file is not one of those that are answered; nothing is
evaluated and nothing is shown then either.  So an exit code of one tells of a failed calculation
exactly as long as the program is not ended in this way. -/
theorem modes_agree (host : Host) (variableValue : Option String)
    (lookup : String → FileContent) (front rest : List String) (given : Arguments)
    (whole : Arguments.read? Command.evaluationOptions true front = some given)
    (unended : "--" ∉ front)
    (evaluates : ∀ given,
      Arguments.read? Command.evaluationOptions true (front ++ rest) = some given →
      given.has "help" = false ∧ given.has "json" = false) :
    ∃ plain json : Report,
      run host variableValue lookup ("eval" :: (front ++ rest)) = plain ∧
      run host variableValue lookup ("eval" :: (front ++ "--json" :: rest)) = json ∧
      json.exitCode = plain.exitCode ∧ plain.exitCode ∈ [0, 1, 2] ∧
      (plain.exitCode = 0 → ∃ shown, IsLine shown ∧ plain.output = shown ++ "\n" ∧
        plain.errors = "" ∧ json.output = "\x7b\"result\": \"" ++ shown ++ "\"\x7d\n") ∧
      (∀ options cause,
        FailsWith host variableValue lookup ("eval" :: (front ++ rest)) options cause →
        plain.exitCode = 1 ∧ plain.output = "" ∧ IsLine cause.kind.name ∧ IsLine cause.message ∧
          plain.errors = (cause.position?.elim "" fun column =>
            Text.withoutControlSequences (Marker.text options.expression column) ++ "\n") ++
              "Error [" ++ cause.kind.name ++ "]: " ++ cause.message ++ "\n" ∧
          json.output =
            (Response.failure cause.kind.name cause.message cause.position?).json ++ "\n") ∧
      (Crashes host variableValue lookup ("eval" :: (front ++ rest)) →
        (∃ message, plain = .crash message ∧ json = .crash message) ∧ ∀ options settings,
          ¬Evaluates host variableValue lookup ("eval" :: (front ++ rest)) options settings) ∧
      (plain.exitCode = 2 → plain.output = "" ∧ json.output = "" ∧ ∀ options settings,
        ¬Evaluates host variableValue lookup ("eval" :: (front ++ rest)) options settings ∧
        ¬Evaluates host variableValue lookup ("eval" :: (front ++ "--json" :: rest)) options
          settings) ∧
      ((plain.exitCode = 1 ↔ ∃ options cause, FailsWith host variableValue lookup
        ("eval" :: (front ++ rest)) options cause) ↔
          ¬Crashes host variableValue lookup ("eval" :: (front ++ rest))) := by
  have modes : Modes host variableValue lookup _ _ _ := modes_of_run whole unended evaluates
  obtain ⟨same, among⟩ := modes.exitCode_eq
  refine ⟨_, _, rfl, rfl, same, among, modes.exists_line, fun _ _ => modes.exists_failure, ?_, ?_,
    ?_⟩
  · intro crashes
    exact ⟨modes.eq_crash crashes, fun options settings evaluates => evaluates.not_crashes crashes⟩
  · intro rejected
    obtain ⟨silent, silent', without⟩ := modes.not_evaluates rejected
    refine ⟨silent, silent', fun options settings => ⟨without options settings, ?_⟩⟩
    intro inserted
    obtain ⟨options, evaluates⟩ := exists_evaluates_of_insert whole unended inserted
    exact without options settings evaluates
  · rw [modes.exitCode_eq_one_iff]
    constructor
    · intro only crashes
      obtain ⟨options, cause, settings, evaluates, -⟩ := only.1 (.inr crashes)
      exact evaluates.not_crashes crashes
    · intro safe
      exact or_iff_left safe

/-- Without a settings file, a question mark is no expression in either mode. -/
theorem modes_agree_question_mark :
    Arguments.read? Command.evaluationOptions true ["-d"] = some ⟨[("degrees", "")], []⟩ ∧
      "--" ∉ ["-d"] ∧
      (run .platform none (fun _ => .missing) ["eval", "-d", "?"]).exitCode = 1 ∧
      (run .platform none (fun _ => .missing) ["eval", "-d", "?"]).output = "" ∧
      (run .platform none (fun _ => .missing) ["eval", "-d", "--json", "?"]).exitCode = 1 := by
  have unended : "--" ∉ ["-d"] := by decide
  have asked : Command.ofArguments? Host.platform.readInteger ["eval", "-d", "?"] =
      some (.evaluate ⟨"?", true, none, false, none, false⟩) := by decide +kernel
  have failed (context : Context) : calculate context "?" =
      .error (.failure (.lexical (.unexpectedCharacter '?' 0))) :=
    calculate_of_scan_error (Token.scanFrom_of_error rfl rfl)
  obtain ⟨plain, json, rfl, rfl, same, -, -, reported, -⟩ :=
    modes_agree .platform none (fun _ => .missing) ["-d"] ["?"] ⟨[("degrees", "")], []⟩ rfl unended
      (by rintro given ⟨⟩; exact ⟨rfl, rfl⟩)
  obtain ⟨code, silent, -⟩ := reported _ _ ⟨.default, ⟨asked, rfl, rfl⟩, failed _⟩
  exact ⟨rfl, unended, code, silent, same.trans code⟩

section LongIntegers

/-- The text of a settings file in which the nesting limit is written with ones. -/
def onesFile (count : Nat) : String :=
  String.ofList ("[engine]\nmax_depth = ".toList ++ List.replicate count '1')

/-- The nesting limit that is written with ones. -/
def onesLimit (count : Nat) : Toml.PlainNumeral :=
  .ofDigits ⟨List.replicate (count + 1) '1', nofun, fun c mem => by
    rw [List.eq_of_mem_replicate mem]
    rfl⟩ nofun

theorem documentText_onesLimit {count : Nat} :
    Toml.documentText (.ofStatement (.table ⟨"engine", []⟩))
        [.ofStatement (.ofField ("max_depth", .number (onesLimit count)))] =
      onesFile (count + 1) := by
  have engine : Toml.keyChars "engine" = "engine".toList := by decide +kernel
  have limit : Toml.keyChars "max_depth" = "max_depth".toList := by decide +kernel
  refine congrArg String.ofList ?_
  simp [Toml.laterLines, Toml.Line.chars, Toml.Line.ofStatement, Toml.Line.statementChars,
    Toml.Line.commentChars, Toml.Statement.ofField, Toml.Statement.chars, Toml.Literal.chars,
    Toml.Name.chars, onesLimit, engine, limit]

theorem ofFile_onesFile {count : Nat} (long : greatestDigitCount ≤ count) :
    Settings.ofFile (.bytes (onesFile (count + 1)).toUTF8) = .error (.longInteger (count + 1)) := by
  have length : (List.replicate (count + 1) '1').length = count + 1 := List.length_replicate
  have limit : (onesLimit count).numeral.value = .error (.longInteger (count + 1)) := by
    rw [onesLimit, Toml.PlainNumeral.value_ofDigits_of_long, length]
    rw [length]
    exact Nat.lt_succ_of_le long
  have unvalued : Toml.tableValues [("engine", [("max_depth", .number (onesLimit count))])] =
      .error (.longInteger (count + 1)) := by
    rw [Toml.tableValues, Toml.fieldValues, Toml.Literal.value, limit]
    rfl
  rw [← documentText_onesLimit]
  exact Settings.ofFile_tables_of_error rfl (by simp) (by simp) unvalued

/-- A settings file in which the nesting limit has more digits than an integer may have ends the
program with the exit code of a failure, although nothing is evaluated that could fail. -/
theorem run_of_long_integer :
    (run .platform none (fun _ => .bytes (onesFile 4301).toUTF8) ["eval", "1"]).exitCode = 1 ∧
      ∀ options cause, ¬FailsWith .platform none (fun _ => .bytes (onesFile 4301).toUTF8)
        ["eval", "1"] options cause := by
  have failed : Settings.ofFile (.bytes (onesFile 4301).toUTF8) = .error (.longInteger 4301) :=
    ofFile_onesFile (Nat.le_refl greatestDigitCount)
  have asked : Command.ofArguments? Host.platform.readInteger ["eval", "1"] =
      some (.evaluate ⟨"1", false, none, false, none, false⟩) := by decide +kernel
  refine ⟨?_, ?_⟩
  · rw [run_of_evaluate asked, runWithFile_of_error rfl failed]
    rfl
  · rintro options cause ⟨settings, evaluates, -⟩
    cases failed.symm.trans evaluates.loaded

end LongIntegers

end Reckoner.CommandLine
