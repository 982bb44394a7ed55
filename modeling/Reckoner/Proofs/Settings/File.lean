import Reckoner.Proofs.Settings.Validation
import Reckoner.Proofs.Toml.Document
import Reckoner.Settings.File

/-!
# What settings files are read as

Every settings file is read as valid settings or rejected.  The reasons to reject a file follow the
order of reading: a file that cannot be reached or read, bytes that are no text, a text that is no
document or holds an integer that is too long, and a document whose settings are not accepted.  Three
of them are not reported as errors of the settings.

## Implementation notes

`Reading` lists the ways in which a file is read, one constructor for each.  What is known about the
outcome is then proved by cases on them, without another look at `ofFile`.
-/

namespace Reckoner

/-- What is found is not a file whose bytes are no text. -/
def FileContent.IsText : FileContent → Prop
  | .bytes content => (String.fromUTF8? content).isSome
  | _ => True

/-- Reading the file as a document stops at a decimal integer of too many digits. -/
def FileContent.HoldsLongInteger : FileContent → Prop
  | .bytes content => ∃ source count, String.fromUTF8? content = some source ∧
      Toml.read source = .error (.longInteger count)
  | _ => False

/-- If what is found cannot be used, this is reported as an error of the settings. -/
structure FileContent.IsAnswered (content : FileContent) : Prop where
  /-- It can be told whether there is something. -/
  reachable : content ≠ .unreachable
  /-- A file is a text. -/
  text : content.IsText
  /-- No integer in the file is too long. -/
  short : ¬content.HoldsLongInteger

namespace Settings

variable {content : FileContent} {entries : List (String × Data)} {settings : Settings}

section Document

/-- A document without the table of settings stands for the defaults. -/
theorem ofDocument_of_none (absent : entries.lookup tableName = none) :
    ofDocument entries = .ok default := by
  rw [ofDocument, absent]

/-- The settings of a document are those that the value under the name of the table describes.  The
empty table is no exception, since it describes the defaults. -/
theorem ofDocument_of_some {data : Data} (found : entries.lookup tableName = some data) :
    ofDocument entries = (ofData data).mapError .invalid := by
  unfold ofDocument
  rw [found]
  split
  · rename_i absent
    cases absent
  · rename_i empty
    cases empty
    rw [ofData_empty]
    rfl
  · rename_i same
    cases same
    rfl

theorem ensures_ofDocument :
    Ensures Valid (fun cause => ∃ errors, cause = .invalid errors) (ofDocument entries) := by
  cases found : entries.lookup tableName with
  | none =>
      rw [ofDocument_of_none found]
      exact valid_default
  | some data =>
      rw [ofDocument_of_some found]
      cases outcome : ofData data with
      | ok settings => exact valid_of_ofData outcome
      | error errors => exact ⟨errors, rfl⟩

end Document

/-- The ways in which a settings file is read. -/
inductive Reading : FileContent → Except LoadError Settings → Prop
  | missing : Reading .missing (.ok default)
  | unreachable : Reading .unreachable (.error .unreachable)
  | unreadable : Reading .unreadable (.error .unreadable)
  | notText {bytes} : String.fromUTF8? bytes = none → Reading (.bytes bytes) (.error .notText)
  | unread {bytes source cause} : String.fromUTF8? bytes = some source →
      Toml.read source = .error cause → Reading (.bytes bytes) (.error (.ofReadError cause))
  | document {bytes source entries} : String.fromUTF8? bytes = some source →
      Toml.read source = .ok entries → Reading (.bytes bytes) (ofDocument entries)

theorem reading_ofFile (content : FileContent) : Reading content (ofFile content) := by
  unfold ofFile
  split
  · exact .missing
  · exact .unreachable
  · exact .unreadable
  · split
    · rename_i undecoded
      exact .notText undecoded
    · rename_i source decoded
      split
      · rename_i cause unread
        exact .unread decoded unread
      · rename_i entries read
        exact .document decoded read

theorem ofFile_of_unread {bytes : ByteArray} {source : String} {cause : Toml.ReadError}
    (decoded : String.fromUTF8? bytes = some source) (unread : Toml.read source = .error cause) :
    ofFile (.bytes bytes) = .error (.ofReadError cause) := by
  rw [ofFile, decoded]
  dsimp only
  rw [unread]

section Written

variable {line : Toml.Line} {lines : List Toml.Line}
  {tables : List (String × List (String × Toml.Literal))}

theorem fromUTF8?_toUTF8 (source : String) : String.fromUTF8? source.toUTF8 = some source :=
  dif_pos source.isValidUTF8

section Tables

variable (written : Toml.statements (line :: lines) = Toml.tableStatements tables)
  (distinct : (tables.map (·.1)).Nodup) (fields : ∀ table ∈ tables, (table.2.map (·.1)).Nodup)

include written distinct fields

/-- If a field stands for nothing, the file is rejected for the same reason. -/
theorem ofFile_tables_of_error {cause : Toml.ReadError}
    (unvalued : Toml.tableValues tables = .error cause) :
    ofFile (.bytes (Toml.documentText line lines).toUTF8) = .error (.ofReadError cause) :=
  ofFile_of_unread (fromUTF8?_toUTF8 _)
    ((Toml.read_tables written distinct fields).trans unvalued)

end Tables

end Written

/-- What is found in a file that is decoded is answered unless an integer is too long. -/
theorem isAnswered_bytes_iff {bytes : ByteArray} {source : String}
    (decoded : String.fromUTF8? bytes = some source) : (FileContent.bytes bytes).IsAnswered ↔
      ∀ count, Toml.read source ≠ .error (.longInteger count) := by
  constructor
  · intro answered count long
    exact answered.short ⟨source, count, decoded, long⟩
  · intro short
    refine ⟨nofun, Option.isSome_iff_exists.2 ⟨source, decoded⟩, ?_⟩
    rintro ⟨_, count, decoded', long⟩
    cases decoded.symm.trans decoded'
    exact short count long

/-- A file is read as valid settings or rejected, and what it is rejected for is reported exactly
when the file is one of those that are answered. -/
theorem ensures_ofFile (content : FileContent) :
    Ensures (fun settings => settings.Valid ∧ content.IsAnswered)
      (fun cause => cause.isReported = true ↔ content.IsAnswered) (ofFile content) := by
  have reading := reading_ofFile content
  generalize ofFile content = outcome at reading ⊢
  cases reading with
  | missing => exact ⟨valid_default, nofun, trivial, not_false⟩
  | unreachable => exact ⟨nofun, fun answered => absurd rfl answered.reachable⟩
  | unreadable => exact ⟨fun _ => ⟨nofun, trivial, not_false⟩, fun _ => rfl⟩
  | @notText bytes undecoded =>
      refine ⟨nofun, fun answered => ?_⟩
      have text : (String.fromUTF8? bytes).isSome := answered.text
      rw [undecoded] at text
      cases text
  | @unread bytes source cause decoded unread =>
      rw [Ensures.error_iff, isAnswered_bytes_iff decoded, unread]
      cases cause with
      | malformed => exact ⟨fun _ _ => nofun, fun _ => rfl⟩
      | longInteger count => exact ⟨nofun, fun short => absurd rfl (short count)⟩
  | @document bytes source entries decoded read =>
      have answered : (FileContent.bytes bytes).IsAnswered := by
        rw [isAnswered_bytes_iff decoded, read]
        exact fun _ => nofun
      apply ensures_ofDocument.mono
      · exact fun settings valid => ⟨valid, answered⟩
      · rintro _ ⟨errors, rfl⟩
        exact ⟨fun _ => answered, fun _ => rfl⟩

theorem valid_of_ofFile (h : ofFile content = .ok settings) : settings.Valid := by
  have sound : Ensures _ _ (ofFile content) := ensures_ofFile content
  rw [h] at sound
  exact sound.1

end Settings

end Reckoner
