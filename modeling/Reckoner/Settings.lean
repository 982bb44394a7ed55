import Reckoner.Decimal.Basic

/-!
# Settings of the engine

The four settings that a user may choose, with their defaults and their admissible ranges.
-/

namespace Reckoner

/-- The unit of the arguments of the trigonometric functions. -/
inductive AngleUnit where
  | radians
  | degrees
deriving DecidableEq

namespace AngleUnit

/-- Both units, in the order in which messages name them. -/
def all : List AngleUnit := [.radians, .degrees]

/-- The name of a unit in settings. -/
def name : AngleUnit → String
  | .radians => "radians"
  | .degrees => "degrees"

/-- The unit of the given name. -/
def ofName? (name : String) : Option AngleUnit := all.find? (·.name = name)

end AngleUnit

/-- The settings of the engine. -/
structure Settings where
  /-- How deep groups, calls, signs and exponents may be nested. -/
  maxDepth : Int
  /-- The unit of the arguments of the trigonometric functions. -/
  angleUnit : AngleUnit
  /-- How far the argument of a factorial may be from an integer. -/
  integerTolerance : Binary64
  /-- The number of significant digits of an answer; all that matter when absent. -/
  precision : Option Int
deriving DecidableEq

namespace Settings

/-- The nesting that is allowed unless another limit is chosen. -/
def defaultMaxDepth : Int := 64

/-- The largest nesting limit that may be chosen. -/
def greatestMaxDepth : Int := 128

/-- The largest number of significant digits that may be chosen. -/
def greatestPrecision : Int := 17

/-- The tolerance that applies unless another is chosen. -/
def defaultIntegerTolerance : Binary64 := Decimal.toBinary64 false ⟨1, -9⟩

/-- Tolerances stay below one half, so that no number is close to two integers. -/
def toleranceEnd : Binary64 := Decimal.toBinary64 false ⟨5, -1⟩

/-- The settings that apply when nothing is chosen. -/
def default : Settings := ⟨defaultMaxDepth, .radians, defaultIntegerTolerance, none⟩

instance : Inhabited Settings := ⟨default⟩

/-- Whether every setting lies in its range. -/
def Valid (settings : Settings) : Prop :=
  (1 ≤ settings.maxDepth ∧ settings.maxDepth ≤ greatestMaxDepth) ∧
    (Binary64.zero.le settings.integerTolerance = true ∧
      settings.integerTolerance.lt toleranceEnd = true) ∧
    ∀ precision ∈ settings.precision, 1 ≤ precision ∧ precision ≤ greatestPrecision

end Settings

end Reckoner
