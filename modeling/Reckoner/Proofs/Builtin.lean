import Reckoner.Builtin

/-!
# Names of functions and constants

Looking up a name and naming what was found undo each other, and no constant is named like a
function or is NaN.
-/

namespace Reckoner

namespace Builtin

theorem name_eq_of_ofName? {name : String} {function : Builtin} (h : ofName? name = some function) :
    function.name = name := by
  simpa using List.find?_some h

@[simp] theorem ofName?_name (function : Builtin) : ofName? function.name = some function := by
  cases function <;> decide

@[simp] theorem ofName?_constant (constant : Constant) : ofName? constant.name = none := by
  cases constant <;> decide

theorem arity_pos (function : Builtin) : 0 < function.arity := by
  cases function <;> decide

/-- No function is called without arguments. -/
theorem ne_nil_of_length_eq {α : Type} (function : Builtin) {arguments : List α}
    (h : arguments.length = function.arity) : arguments ≠ [] := by
  rintro rfl
  exact Nat.ne_of_lt function.arity_pos h

end Builtin

namespace Constant

theorem name_eq_of_ofName? {name : String} {constant : Constant}
    (h : ofName? name = some constant) : constant.name = name := by
  simpa using List.find?_some h

@[simp] theorem ofName?_name (constant : Constant) : ofName? constant.name = some constant := by
  cases constant <;> decide

theorem eq_of_name_eq {constant other : Constant} (h : constant.name = other.name) :
    constant = other := by
  have found := ofName?_name constant
  rw [h, ofName?_name] at found
  exact (Option.some.inj found).symm

@[simp] theorem isNaN_value (constant : Constant) : constant.value.isNaN = false := by
  cases constant <;> rfl

end Constant

end Reckoner
