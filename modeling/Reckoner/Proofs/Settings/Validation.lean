import Reckoner.Proofs.Binary64.Arithmetic
import Reckoner.Proofs.Outcome
import Reckoner.Settings.Validation

/-!
# Accepted settings are valid

Structured data is accepted as settings when it is a table, every name in it is a field, and every
value that is given can be read.  A field that is not given has its default.  Each reader returns
values in the range of its field only, and the defaults lie in these ranges, so that accepted
settings are valid whatever kinds of values they were read from.  A table that is not accepted is
rejected for at least one error, which names a field or an entry of the table.
-/

namespace Reckoner.Settings

variable {α : Type} {data : Data} {entries : List (String × Data)} {settings : Settings}

/-- The defaults lie in the ranges of their fields. -/
theorem valid_default : default.Valid := ⟨by decide, by decide +kernel, nofun⟩

section Readers

variable {field : String} {least greatest : Int}

/-- An integer that is accepted for a range lies in it. -/
theorem ensures_integerIn :
    Ensures (fun n => least ≤ n ∧ n ≤ greatest) (fun _ => True) (integerIn least greatest data) := by
  unfold integerIn
  apply (Ensures.somehow (integerOf data)).and_then
  intro n _
  split
  · trivial
  · rename_i notAbove
    split
    · trivial
    · rename_i notBelow
      exact ⟨Int.not_lt.1 notBelow, Int.not_lt.1 notAbove⟩

/-- A tolerance that is accepted is at least zero and below one half. -/
theorem ensures_toleranceOf :
    Ensures (fun x => Binary64.zero.le x = true ∧ x.lt toleranceEnd = true) (fun _ => True)
      (toleranceOf data) := by
  unfold toleranceOf
  apply (Ensures.somehow (numberOf data)).and_then
  intro x _
  split
  · trivial
  · rename_i small
    split
    · trivial
    · rename_i nonnegative
      exact ⟨by simpa using nonnegative, by simpa using small⟩

/-- A precision that is accepted is absent or lies in its range. -/
theorem ensures_precisionOf :
    Ensures (fun precision => ∀ n ∈ precision, 1 ≤ n ∧ n ≤ greatestPrecision) (fun _ => True)
      (precisionOf data) := by
  unfold precisionOf
  split
  · exact nofun
  · have read : Ensures _ _ (integerIn 1 greatestPrecision data) := ensures_integerIn
    cases outcome : integerIn 1 greatestPrecision data with
    | error problem => trivial
    | ok n =>
        rw [outcome] at read
        rintro _ ⟨⟩
        exact read

/-- What holds of the default and of every value that can be read holds of the field, and an error
names the field. -/
theorem ensures_fieldOr {suits : α → Prop} {absent : α} {read : Data → Except Problem α}
    (start : suits absent) (given : ∀ data, Ensures suits (fun _ => True) (read data)) :
    Ensures suits (·.field = field) (fieldOr entries field absent read) := by
  unfold fieldOr
  split
  · exact start
  · rename_i data _
    have suited := given data
    cases outcome : read data with
    | error problem => rfl
    | ok value =>
        rw [outcome] at suited
        exact suited

end Readers

section Tables

theorem unknownFields_eq_nil_iff :
    unknownFields entries = [] ↔ ∀ entry ∈ entries, entry.1 ∈ fields := by
  simp [unknownFields]

/-- The table names fields only, and the settings hold what is read from it for each field. -/
structure Describes (entries : List (String × Data)) (settings : Settings) : Prop where
  /-- Every name is a field. -/
  known : ∀ entry ∈ entries, entry.1 ∈ fields
  /-- The nesting limit is the one that is given, or the default. -/
  maxDepth : fieldOr entries "max_depth" defaultMaxDepth (integerIn 1 greatestMaxDepth) =
    .ok settings.maxDepth
  /-- The unit of angles is the one that is given, or the default. -/
  angleUnit : fieldOr entries "angle_unit" .radians angleUnitOf = .ok settings.angleUnit
  /-- The tolerance is the one that is given, or the default. -/
  integerTolerance : fieldOr entries "integer_tolerance" defaultIntegerTolerance toleranceOf =
    .ok settings.integerTolerance
  /-- The precision is the one that is given, or the default. -/
  precision : fieldOr entries "precision" none precisionOf = .ok settings.precision

/-- A table is accepted when it names fields only and every field can be read. -/
theorem ofData_table_eq_ok_iff :
    ofData (.table entries) = .ok settings ↔ Describes entries settings := by
  constructor
  · intro accepted
    unfold ofData at accepted
    dsimp only at accepted
    split at accepted
    · rename_i depth unit tolerance precision known
      cases accepted
      exact ⟨unknownFields_eq_nil_iff.1 known, depth, unit, tolerance, precision⟩
    · cases accepted
  · rintro ⟨known, depth, unit, tolerance, precision⟩
    unfold ofData
    dsimp only
    rw [depth, unit, tolerance, precision, unknownFields_eq_nil_iff.2 known]

theorem Describes.valid (h : Describes entries settings) : settings.Valid := by
  have depth : Ensures _ (·.field = "max_depth")
      (fieldOr entries "max_depth" defaultMaxDepth (integerIn 1 greatestMaxDepth)) :=
    ensures_fieldOr valid_default.1 fun _ => ensures_integerIn
  have tolerance : Ensures _ (·.field = "integer_tolerance")
      (fieldOr entries "integer_tolerance" defaultIntegerTolerance toleranceOf) :=
    ensures_fieldOr valid_default.2.1 fun _ => ensures_toleranceOf
  have precision : Ensures _ (·.field = "precision") (fieldOr entries "precision" none precisionOf) :=
    ensures_fieldOr valid_default.2.2 fun _ => ensures_precisionOf
  rw [h.maxDepth] at depth
  rw [h.integerTolerance] at tolerance
  rw [h.precision] at precision
  exact ⟨depth, tolerance, precision⟩

/-- Settings that are accepted are valid. -/
theorem valid_of_ofData (h : ofData data = .ok settings) : settings.Valid := by
  cases data with
  | table entries => exact (ofData_table_eq_ok_iff.1 h).valid
  | _ => cases h

/-- The empty table stands for the defaults. -/
theorem ofData_empty : ofData (.table []) = .ok default :=
  ofData_table_eq_ok_iff.2 ⟨nofun, rfl, rfl, rfl, rfl⟩

end Tables

section Errors

variable {error : SettingError} {errors : List SettingError}

theorem errorsOf_eq_nil_iff {outcome : Except SettingError α} :
    errorsOf outcome = [] ↔ ∃ value, outcome = .ok value := by
  cases outcome <;> simp [errorsOf]

/-- The error of a field names the field. -/
theorem field_of_mem_errorsOf {field : String} {absent : α} {read : Data → Except Problem α}
    (mem : error ∈ errorsOf (fieldOr entries field absent read)) : error.field = field := by
  have named : Ensures (fun _ => True) (·.field = field) (fieldOr entries field absent read) :=
    ensures_fieldOr trivial fun data => Ensures.somehow (read data)
  cases outcome : fieldOr entries field absent read with
  | ok value =>
      rw [outcome] at mem
      cases mem
  | error cause =>
      rw [outcome] at mem named
      cases List.mem_singleton.1 mem
      exact named

/-- The error is about a field, or about an entry whose name is no field. -/
def Concerns (entries : List (String × Data)) (error : SettingError) : Prop :=
  error.field ∈ fields ∨
    error.problem = .unknownField ∧ ∃ entry ∈ entries, entry.1 = error.field ∧ entry.1 ∉ fields

/-- A table that is rejected is rejected for errors that concern its entries. -/
theorem concerns_of_ofData (rejected : ofData (.table entries) = .error errors) :
    errors ≠ [] ∧ ∀ error ∈ errors, Concerns entries error := by
  unfold ofData at rejected
  dsimp only at rejected
  split at rejected
  · cases rejected
  · rename_i incomplete
    cases rejected
    constructor
    · intro none
      have sorted := congrArg List.length none
      rw [List.length_mergeSort, List.length_nil, List.length_eq_zero_iff] at sorted
      simp only [List.append_eq_nil_iff, errorsOf_eq_nil_iff] at sorted
      obtain ⟨⟨⟨⟨⟨depth, hd⟩, unit, hu⟩, tolerance, ht⟩, precision, hp⟩, known⟩ := sorted
      exact incomplete depth unit tolerance precision hd hu ht hp known
    · intro error mem
      rw [List.mem_mergeSort] at mem
      simp only [List.mem_append] at mem
      obtain (((depth | unit) | tolerance) | precision) | unknown := mem
      · exact .inl (by simp [field_of_mem_errorsOf depth, fields])
      · exact .inl (by simp [field_of_mem_errorsOf unit, fields])
      · exact .inl (by simp [field_of_mem_errorsOf tolerance, fields])
      · exact .inl (by simp [field_of_mem_errorsOf precision, fields])
      · unfold unknownFields at unknown
        obtain ⟨entry, found, rfl⟩ := List.mem_map.1 unknown
        obtain ⟨member, strange⟩ := List.mem_filter.1 found
        exact .inr ⟨rfl, entry, member, rfl, by simpa using strange⟩

end Errors

end Reckoner.Settings
