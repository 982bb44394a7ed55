import Reckoner.Binary64.Arithmetic
import Reckoner.Data
import Reckoner.Settings
import Reckoner.Settings.Numeral

/-!
# Validating settings

Settings are read from a table of structured data.  Numbers may also be given as numerals in texts
and as truth values, and integers as numbers without a fractional part.  Every field that is wrong
is reported once, the report being ordered by the names of the fields.
-/

namespace Reckoner

/-- What is wrong with the value of a setting. -/
inductive Problem where
  /-- The settings are no table. -/
  | notTable
  /-- There is no setting of this name. -/
  | unknownField
  /-- The value cannot stand for an integer. -/
  | notInteger
  /-- The text is no integer numeral. -/
  | unreadableInteger
  /-- The number has a fractional part. -/
  | fractionalInteger
  /-- The number is infinite or NaN. -/
  | infiniteInteger
  /-- The number is too large for an integer. -/
  | hugeInteger
  /-- The value cannot stand for a number. -/
  | notNumber
  /-- The text is no numeral. -/
  | unreadableNumber
  /-- The value is less than the least allowed one. -/
  | below (least : Int)
  /-- The value is greater than the greatest allowed one. -/
  | above (greatest : Int)
  /-- The tolerance reaches one half or is NaN. -/
  | notBelowHalf
  /-- The value names no unit of angles. -/
  | notUnit
deriving DecidableEq

namespace Problem

/-- The stable name of a problem. -/
def code : Problem → String
  | .notTable => "model_type"
  | .unknownField => "extra_forbidden"
  | .notInteger => "int_type"
  | .unreadableInteger => "int_parsing"
  | .fractionalInteger => "int_from_float"
  | .infiniteInteger => "finite_number"
  | .hugeInteger => "int_parsing_size"
  | .notNumber => "float_type"
  | .unreadableNumber => "float_parsing"
  | .below _ => "greater_than_equal"
  | .above _ => "less_than_equal"
  | .notBelowHalf => "less_than"
  | .notUnit => "enum"

/-- The message for the user. -/
def message : Problem → String
  | .notTable => "Input should be a valid dictionary or instance of EngineConfig"
  | .unknownField => "Extra inputs are not permitted"
  | .notInteger => "Input should be a valid integer"
  | .unreadableInteger => "Input should be a valid integer, unable to parse string as an integer"
  | .fractionalInteger => "Input should be a valid integer, got a number with a fractional part"
  | .infiniteInteger => "Input should be a finite number"
  | .hugeInteger => "Unable to parse input string as an integer, exceeded maximum size"
  | .notNumber => "Input should be a valid number"
  | .unreadableNumber => "Input should be a valid number, unable to parse string as a number"
  | .below least => "Input should be greater than or equal to " ++ integerText least
  | .above greatest => "Input should be less than or equal to " ++ integerText greatest
  | .notBelowHalf => "Input should be less than 0.5"
  | .notUnit => "Input should be 'radians' or 'degrees'"

/-- The problem with a text that is no integer. -/
def ofIntegerError : IntegerError → Problem
  | .malformed => .unreadableInteger
  | .tooLong => .hugeInteger

end Problem

/-- A problem and the field it was found in; the field of the settings as a whole is empty. -/
structure SettingError where
  /-- The name of the field. -/
  field : String
  /-- What is wrong with its value. -/
  problem : Problem
deriving DecidableEq

namespace Settings

/-- Integers given as other numbers stay below this bound in magnitude. -/
def realIntegerEnd : Binary64 := .ofNat (Nat.pow 2 63)

/-- An integer given as a number. -/
def integerOfReal (x : Binary64) : Except Problem Int :=
  match x.nearestInteger? with
  | none => .error .infiniteInteger
  | some n =>
      if !x.isInteger then .error .fractionalInteger
      else if x.abs.lt realIntegerEnd then .ok n
      else .error .hugeInteger

/-- The integer that a value stands for. -/
def integerOf : Data → Except Problem Int
  | .integer value => .ok value
  | .boolean value => .ok (if value then 1 else 0)
  | .real value => integerOfReal value
  | .text value => (readInteger value).mapError Problem.ofIntegerError
  | _ => .error .notInteger

/-- The integer that a value stands for, which has to lie in a range. -/
def integerIn (least greatest : Int) (data : Data) : Except Problem Int := do
  let n ← integerOf data
  if greatest < n then .error (.above greatest)
  else if n < least then .error (.below least)
  else return n

/-- The number that a value stands for. -/
def numberOf : Data → Except Problem Binary64
  | .real value => .ok value
  | .integer value =>
      if (Binary64.ofInt value).isFinite then .ok (.ofInt value) else .error .notNumber
  | .boolean value => .ok (.ofNat (if value then 1 else 0))
  | .text value => (readNumber? value).elim (.error .unreadableNumber) .ok
  | _ => .error .notNumber

/-- The tolerance that a value stands for. -/
def toleranceOf (data : Data) : Except Problem Binary64 := do
  let x ← numberOf data
  if !x.lt toleranceEnd then .error .notBelowHalf
  else if !Binary64.zero.le x then .error (.below 0)
  else return x

/-- The unit of angles that a value names. -/
def angleUnitOf : Data → Except Problem AngleUnit
  | .text value => (AngleUnit.ofName? value).elim (.error .notUnit) .ok
  | _ => .error .notUnit

/-- The precision that a value stands for, which may be absent. -/
def precisionOf : Data → Except Problem (Option Int)
  | .null => .ok none
  | data => (integerIn 1 greatestPrecision data).map some

/-- The value of a field, or the default when the field is absent. -/
def fieldOr {α : Type} (entries : List (String × Data)) (field : String) (absent : α)
    (read : Data → Except Problem α) : Except SettingError α :=
  match entries.lookup field with
  | none => .ok absent
  | some data => (read data).mapError (SettingError.mk field)

/-- The names of all fields. -/
def fields : List String := ["max_depth", "angle_unit", "integer_tolerance", "precision"]

/-- The errors about names that are no fields. -/
def unknownFields (entries : List (String × Data)) : List SettingError :=
  (entries.filter fun entry => !fields.contains entry.1).map fun entry => ⟨entry.1, .unknownField⟩

/-- The error of an outcome, if it is one. -/
def errorsOf {α : Type} : Except SettingError α → List SettingError
  | .error error => [error]
  | .ok _ => []

/-- The settings that structured data describes, or everything that is wrong with it. -/
def ofData : Data → Except (List SettingError) Settings
  | .table entries =>
      let maxDepth :=
        fieldOr entries "max_depth" defaultMaxDepth (integerIn 1 greatestMaxDepth)
      let angleUnit := fieldOr entries "angle_unit" .radians angleUnitOf
      let tolerance :=
        fieldOr entries "integer_tolerance" defaultIntegerTolerance toleranceOf
      let precision := fieldOr entries "precision" none precisionOf
      match maxDepth, angleUnit, tolerance, precision, unknownFields entries with
      | .ok maxDepth, .ok angleUnit, .ok tolerance, .ok precision, [] =>
          .ok ⟨maxDepth, angleUnit, tolerance, precision⟩
      | _, _, _, _, unknown =>
          let errors :=
            errorsOf maxDepth ++ errorsOf angleUnit ++ errorsOf tolerance ++ errorsOf precision ++
              unknown
          .error (errors.mergeSort fun a b => decide (a.field ≤ b.field))
  | _ => .error [⟨"", .notTable⟩]

end Settings

end Reckoner
