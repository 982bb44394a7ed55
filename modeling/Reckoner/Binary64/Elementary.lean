import Reckoner.Binary64.Basic

/-!
# Elementary functions

The functions that no finite computation on ratios gives exactly.  Everything that uses them takes
them as an argument, so that its laws can be stated for any choice; `Elementary.platform` is the
choice made when the program runs.
-/

namespace Reckoner

/-- A choice of the elementary functions, each total on all binary64 numbers. -/
structure Elementary where
  /-- The sine of an angle in radians. -/
  sin : Binary64 → Binary64
  /-- The cosine of an angle in radians. -/
  cos : Binary64 → Binary64
  /-- The tangent of an angle in radians. -/
  tan : Binary64 → Binary64
  /-- The natural exponential. -/
  exp : Binary64 → Binary64
  /-- The natural logarithm. -/
  ln : Binary64 → Binary64
  /-- The decimal logarithm. -/
  log10 : Binary64 → Binary64
  /-- The first argument raised to the second. -/
  pow : Binary64 → Binary64 → Binary64

namespace Binary64

/-- The machine number with the same encoding. -/
def toFloat (x : Binary64) : Float := Float.ofBits x.toBits

/-- The number with the encoding of a machine number. -/
def ofFloat (x : Float) : Binary64 := ofBits x.toBits

end Binary64

namespace Elementary

/-- A function of machine numbers, seen as a function of binary64 numbers. -/
def lift (f : Float → Float) (x : Binary64) : Binary64 := .ofFloat (f x.toFloat)

/-- The elementary functions of the platform's mathematical library. -/
def platform : Elementary where
  sin := lift Float.sin
  cos := lift Float.cos
  tan := lift Float.tan
  exp := lift Float.exp
  ln := lift Float.log
  log10 := lift Float.log10
  pow x y := .ofFloat (Float.pow x.toFloat y.toFloat)

end Elementary

end Reckoner
