import Reckoner.Binary64.Basic

/-!
# Built-in functions and constants

The closed sets of names that an expression may use.  The orders of `Builtin.all` and
`Constant.all` are the orders in which they are listed to the user.
-/

namespace Reckoner

/-- A built-in function. -/
inductive Builtin where
  /-- The square root. -/
  | sqrt
  /-- The factorial. -/
  | fact
  /-- The sine. -/
  | sin
  /-- The cosine. -/
  | cos
  /-- The tangent. -/
  | tan
  /-- The decimal logarithm. -/
  | log
  /-- The natural logarithm. -/
  | ln
  /-- The natural exponential. -/
  | exp
  /-- The power with two arguments. -/
  | pow
deriving DecidableEq

namespace Builtin

/-- Every built-in function, in the order of the printed table. -/
def all : List Builtin := [.sqrt, .fact, .sin, .cos, .tan, .log, .ln, .exp, .pow]

/-- The name that expressions call the function by. -/
def name : Builtin → String
  | .sqrt => "sqrt"
  | .fact => "fact"
  | .sin => "sin"
  | .cos => "cos"
  | .tan => "tan"
  | .log => "log"
  | .ln => "ln"
  | .exp => "exp"
  | .pow => "pow"

/-- How many arguments the function takes. -/
def arity : Builtin → Nat
  | .pow => 2
  | _ => 1

/-- The line that describes the function in the printed table. -/
def description : Builtin → String
  | .sqrt => "Square root"
  | .fact => "Factorial of a non-negative integer"
  | .sin => "Sine"
  | .cos => "Cosine"
  | .tan => "Tangent"
  | .log => "Base-10 logarithm"
  | .ln => "Natural logarithm"
  | .exp => "e raised to the argument"
  | .pow => "First argument raised to the second"

/-- The function of the given name. -/
def ofName? (name : String) : Option Builtin := all.find? (·.name = name)

end Builtin

/-- A named constant. -/
inductive Constant where
  /-- The ratio of a circle's circumference to its diameter. -/
  | pi
  /-- The base of the natural logarithm. -/
  | e
deriving DecidableEq

namespace Constant

/-- Every constant, in the order in which they are listed. -/
def all : List Constant := [.pi, .e]

/-- The name that expressions use. -/
def name : Constant → String
  | .pi => "pi"
  | .e => "e"

/-- The binary64 number nearest to the constant. -/
def value : Constant → Binary64
  | .pi => .finite false ⟨0x400921fb54442d18, by decide⟩
  | .e => .finite false ⟨0x4005bf0a8b145769, by decide⟩

/-- The constant of the given name. -/
def ofName? (name : String) : Option Constant := all.find? (·.name = name)

end Constant

end Reckoner
