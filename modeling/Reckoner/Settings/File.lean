import Reckoner.Settings.Validation
import Reckoner.Toml.Reading

/-!
# Settings files

Settings are kept in the table `engine` of a TOML file.  A file that does not exist, or has no such
table or an empty one, stands for the default settings.
-/

namespace Reckoner

/-- What is found under the name of a file. -/
inductive FileContent where
  /-- Nothing. -/
  | missing
  /-- It cannot even be told whether there is something, as below a directory that must not be
  searched. -/
  | unreachable
  /-- Something that cannot be read as a file, such as a directory. -/
  | unreadable
  /-- A file with its bytes. -/
  | bytes (content : ByteArray)

/-- Why a settings file cannot be used. -/
inductive LoadError where
  /-- It cannot be told whether the file exists. -/
  | unreachable
  /-- What is there cannot be read as a file. -/
  | unreadable
  /-- The bytes are no text. -/
  | notText
  /-- The text is no TOML document. -/
  | malformed
  /-- The document holds a decimal integer of too many digits. -/
  | longInteger (count : Nat)
  /-- The document holds settings that are not valid. -/
  | invalid (errors : List SettingError)

namespace LoadError

/-- The message for the user. -/
def message : LoadError → String
  | .unreachable => "Cannot be reached"
  | .unreadable => "Cannot read"
  | .notText => "Not UTF-8"
  | .malformed => "Invalid TOML"
  | .longInteger count =>
      "Exceeds the limit (" ++ integerText greatestDigitCount ++
        " digits) for integer string conversion: value has " ++ integerText count ++
        " digits; use sys.set_int_max_str_digits() to increase the limit"
  | .invalid _ => "Invalid [engine] configuration"

/-- Whether the error is reported as one of the settings; the others end the program. -/
def isReported : LoadError → Bool
  | .unreadable => true
  | .malformed => true
  | .invalid _ => true
  | .unreachable => false
  | .notText => false
  | .longInteger _ => false

/-- The error about a document that is not read. -/
def ofReadError : Toml.ReadError → LoadError
  | .malformed => .malformed
  | .longInteger count => .longInteger count

end LoadError

namespace Settings

/-- The name of the table that holds the settings. -/
def tableName : String := "engine"

/-- The settings in the entries of a document. -/
def ofDocument (entries : List (String × Data)) : Except LoadError Settings :=
  match entries.lookup tableName with
  | none => .ok default
  | some (.table []) => .ok default
  | some data => (ofData data).mapError .invalid

/-- The settings in a file. -/
def ofFile : FileContent → Except LoadError Settings
  | .missing => .ok default
  | .unreachable => .error .unreachable
  | .unreadable => .error .unreadable
  | .bytes content =>
      match String.fromUTF8? content with
      | none => .error .notText
      | some source =>
          match Toml.read source with
          | .error cause => .error (.ofReadError cause)
          | .ok entries => ofDocument entries

end Settings

end Reckoner
