import Reckoner.CommandLine.Run
import Reckoner.Proofs.CommandLine.Command
import Reckoner.Proofs.Settings.File

/-!
# The settings in force

An evaluation runs under valid settings or not at all.  The settings are those of one file, in which
an option replaces its own field and no other, and a file that cannot be used ends the run whatever
the options would have replaced.  Such a file is reported as an error of the settings unless it is
one of those that end the run in another way.

## Implementation notes

Everything is said about an arbitrary host, so that nothing depends on which texts the option parser
takes for integers, or on how the elementary functions round.
-/

namespace Reckoner.CommandLine

variable {host : Host} {variableValue : Option String} {lookup : String → FileContent}
  {arguments : List String} {given : Arguments} {options : EvaluationOptions}
  {settings : Settings} {content : FileContent} {cause : LoadError} {message : String}
  {readInteger : String → Option Int}

/-- A command line that asks for an evaluation runs it with the content of its settings file. -/
theorem run_of_evaluate
    (asked : Command.ofArguments? host.readInteger arguments = some (.evaluate options)) :
    run host variableValue lookup arguments =
      options.runWithFile host (lookup (options.file variableValue)) := by
  rw [run, asked]
  rfl

/-- A level of logging that cannot be set ends the run before the settings file is read. -/
theorem runWithFile_of_level (wrong : options.levelError? host.level = some message) :
    options.runWithFile host content = .crash message := by
  rw [EvaluationOptions.runWithFile, wrong]

section Levels

variable (level : options.levelError? host.level = none)

include level

theorem runWithFile_of_ok (loaded : Settings.ofFile content = .ok settings) :
    options.runWithFile host content = options.run ⟨host.elementary, options.override settings⟩ := by
  rw [EvaluationOptions.runWithFile, level, loaded]

theorem runWithFile_of_error (failed : Settings.ofFile content = .error cause) :
    options.runWithFile host content = .ofLoadError cause := by
  rw [EvaluationOptions.runWithFile, level, failed]

end Levels

section Choices

/-- The settings that are used are others with the fields replaced that the arguments choose. -/
structure Overrides (readInteger : String → Option Int) (given : Arguments)
    (settings used : Settings) : Prop where
  /-- No option replaces the nesting limit. -/
  maxDepth : used.maxDepth = settings.maxDepth
  /-- No option replaces the tolerance. -/
  integerTolerance : used.integerTolerance = settings.integerTolerance
  /-- The option for degrees replaces the unit of angles. -/
  degrees : given.has "degrees" = true → used.angleUnit = .degrees
  /-- Nothing else replaces the unit of angles. -/
  angleUnit : given.has "degrees" = false → used.angleUnit = settings.angleUnit
  /-- The option for the precision replaces the precision. -/
  places : ∀ text, given.value? "precision" = some text →
    ∃ n, readInteger text = some n ∧ used.precision = some n
  /-- Nothing else replaces the precision. -/
  precision : given.value? "precision" = none → used.precision = settings.precision

theorem overrides_override (asks : Command.Asks readInteger given options) :
    Overrides readInteger given settings (options.override settings) where
  maxDepth := rfl
  integerTolerance := rfl
  degrees chosen := if_pos (asks.degrees.trans chosen)
  angleUnit absent := if_neg (by rw [asks.degrees, absent]; exact nofun)
  places text found := by
    obtain ⟨n, read, -, present⟩ := asks.precision text found
    exact ⟨n, read, by rw [EvaluationOptions.override, present]; rfl⟩
  precision absent := by
    rw [EvaluationOptions.override, asks.noPrecision absent]
    rfl

/-- Settings remain valid, since an option has the range of the field that it replaces. -/
theorem valid_override (asks : Command.Asks readInteger given options) (valid : settings.Valid) :
    (options.override settings).Valid := by
  refine ⟨valid.1, valid.2.1, ?_⟩
  cases chosen : given.value? "precision" with
  | none =>
      rw [(overrides_override asks).precision chosen]
      exact valid.2.2
  | some text =>
      obtain ⟨n, -, range, present⟩ := asks.precision text chosen
      intro m mem
      have same : options.precision.or settings.precision = some m := mem
      rw [present] at same
      cases same
      exact range

end Choices

section Runs

/-- Every error of loading ends the run without a result and with an exit code other than zero. -/
theorem exitCode_ofLoadError_ne_zero (cause : LoadError) :
    (Report.ofLoadError cause).exitCode ≠ 0 ∧ (Report.ofLoadError cause).output = "" := by
  unfold Report.ofLoadError
  split <;> exact ⟨nofun, rfl⟩

end Runs

section Unusable

theorem ofLoadError_of_isReported (reported : cause.isReported = true) :
    Report.ofLoadError cause = ⟨2, "", "Error loading configuration: " ++ cause.message⟩ :=
  if_pos reported

theorem ofLoadError_of_not_isReported (escapes : ¬cause.isReported = true) :
    Report.ofLoadError cause = .crash cause.message := if_neg escapes

/-- A settings file is read as valid settings, or rejected with an error that the command line
reports, exactly when it is one of those that are answered: it can be told whether it exists, its
bytes are a text, and it holds no integer that is too long.  An evaluation with a file that cannot be
used exits with two and says so exactly when the file is one of these and the level of logging can be
set, and otherwise exits with one. -/
theorem unusable_file_reported_iff (content : FileContent) :
    (Ensures (·.Valid) (·.isReported = true) (Settings.ofFile content) ↔ content.IsAnswered) ∧
    ∀ (host : Host) (variableValue : Option String) (lookup : String → FileContent)
      (arguments : List String) (options : EvaluationOptions) (cause : LoadError),
      Command.ofArguments? host.readInteger arguments = some (.evaluate options) →
      lookup (options.file variableValue) = content → Settings.ofFile content = .error cause →
      (run host variableValue lookup arguments =
          ⟨2, "", "Error loading configuration: " ++ cause.message⟩ ↔
        content.IsAnswered ∧ options.levelError? host.level = none) ∧
      (¬(content.IsAnswered ∧ options.levelError? host.level = none) →
        (run host variableValue lookup arguments).exitCode = 1) := by
  have sound : Ensures _ _ (Settings.ofFile content) := Settings.ensures_ofFile content
  refine ⟨?_, ?_⟩
  · cases outcome : Settings.ofFile content with
    | ok settings =>
        rw [outcome] at sound
        exact ⟨fun _ => sound.2, fun _ => sound.1⟩
    | error cause =>
        rw [outcome] at sound
        exact sound
  · rintro host variableValue lookup arguments options cause asked rfl failed
    rw [failed, Ensures.error_iff] at sound
    rw [run_of_evaluate asked]
    have exit (other : ¬((lookup (options.file variableValue)).IsAnswered ∧
        options.levelError? host.level = none)) :
        (options.runWithFile host (lookup (options.file variableValue))).exitCode = 1 := by
      cases level : options.levelError? host.level with
      | some message =>
          rw [runWithFile_of_level level]
          rfl
      | none =>
          have escapes := mt sound.1 fun answered => other ⟨answered, level⟩
          rw [runWithFile_of_error level failed, ofLoadError_of_not_isReported escapes]
          rfl
    refine ⟨⟨fun reported => ?_, fun ⟨answered, level⟩ => ?_⟩, exit⟩
    · by_contra other
      have code := exit other
      rw [reported] at code
      cases code
    · rw [runWithFile_of_error level failed, ofLoadError_of_isReported (sound.2 answered)]

/-- A single byte that starts no character is no text, and an evaluation whose settings file holds
just this byte is not reported as one with unusable settings. -/
theorem run_of_undecodable_byte :
    Settings.ofFile (.bytes ⟨#[0xff]⟩) = .error .notText ∧
      (run .platform none (fun _ => .bytes ⟨#[0xff]⟩) ["eval", "1"]).exitCode = 1 := by
  have undecoded : String.fromUTF8? ⟨#[0xff]⟩ = none := by decide
  have failed : Settings.ofFile (.bytes ⟨#[0xff]⟩) = .error .notText := by
    rw [Settings.ofFile, undecoded]
  have asked : Command.ofArguments? Host.platform.readInteger ["eval", "1"] =
      some (.evaluate ⟨"1", false, none, false, none, false⟩) := by decide +kernel
  refine ⟨failed, ?_⟩
  rw [run_of_evaluate asked, runWithFile_of_error rfl failed]
  rfl

end Unusable

end Reckoner.CommandLine
