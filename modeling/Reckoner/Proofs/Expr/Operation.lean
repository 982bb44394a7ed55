import Mathlib.Data.List.Basic
import Reckoner.Proofs.Expr.Guards
import Reckoner.Proofs.Outcome

/-!
# Operations on numbers that are not NaN

An operator or a function that is applied to as many arguments as it takes has a number for a
result, or fails for a reason of arithmetic.  The elementary functions are used inside their domains
only, so that what they are outside has no influence.

## Implementation notes

`Elementary.Agree` is how the second part is said: two choices of the elementary functions that
differ outside the domains cannot be told apart.  The only domain that takes an argument is that of
the angles, because a finite angle in degrees has to stay finite in radians.
-/

namespace Reckoner

open Binary64

/-- The faults of arithmetic: a division by zero, or an operation outside its domain. -/
inductive Arithmetical : Fault EvaluationError → Prop
  | divisionByZero : Arithmetical (.failure .divisionByZero)
  | domain (cause : DomainError) : Arithmetical (.failure (.domain cause))

/-- Two choices of the elementary functions with the same values inside the domains. -/
structure Elementary.Agree (f g : Elementary) : Prop where
  /-- The sines of finite angles are the same. -/
  sin : ∀ x, x.isFinite = true → f.sin x = g.sin x
  /-- The cosines of finite angles are the same. -/
  cos : ∀ x, x.isFinite = true → f.cos x = g.cos x
  /-- The tangents of finite angles are the same. -/
  tan : ∀ x, x.isFinite = true → f.tan x = g.tan x
  /-- The exponentials of numbers are the same. -/
  exp : ∀ x, x.isNaN = false → f.exp x = g.exp x
  /-- The natural logarithms of positive numbers are the same. -/
  ln : ∀ x, zero.lt x = true → f.ln x = g.ln x
  /-- The decimal logarithms of positive numbers are the same. -/
  log10 : ∀ x, zero.lt x = true → f.log10 x = g.log10 x
  /-- The powers of finite numbers are the same. -/
  pow : ∀ x y, x.isFinite = true → y.isFinite = true → f.pow x y = g.pow x y

variable {context : Context} {settings : Settings} {f g : Elementary} {x left right : Binary64}
  {operator : Operator} {cause : DomainError}

theorem ensures_realOr : Ensures (·.isNaN = false) Arithmetical (realOr cause x) := by
  unfold realOr
  split
  · exact .domain cause
  · rename_i real
    exact Bool.eq_false_iff.2 real

theorem ensures_ofPower {outcome : Except DomainError Binary64} :
    Ensures (fun _ => True) Arithmetical (ofPower outcome) := by
  cases outcome with
  | ok x => trivial
  | error cause => exact .domain cause

/-- An operator has a number for a result, whatever its operands are. -/
theorem Operator.ensures_apply :
    Ensures (·.isNaN = false) Arithmetical (operator.apply context left right) := by
  cases operator with
  | add => exact ensures_realOr
  | sub => exact ensures_realOr
  | mul => exact ensures_realOr
  | div =>
      rw [Operator.apply_div]
      split
      · exact .divisionByZero
      · exact ensures_realOr
  | pow =>
      apply ensures_ofPower.and_then
      intro power _
      exact ensures_realOr

theorem power_congr (agree : f.Agree g) : power f left right = power g left right := by
  unfold power
  split
  · rename_i finite
    rw [Bool.and_eq_true] at finite
    rw [agree.pow left right finite.1 finite.2]
  · rfl

theorem Operator.apply_congr (agree : f.Agree g) :
    operator.apply ⟨f, settings⟩ left right = operator.apply ⟨g, settings⟩ left right := by
  unfold Operator.apply
  rw [power_congr agree]

namespace Builtin

variable {function : Builtin} {arguments : List Binary64}

/-- Only the power takes two arguments, all other functions take one. -/
theorem arguments_cases {α : Type} {arguments : List α}
    (count : arguments.length = function.arity) :
    (function = .pow ∧ ∃ base exponent, arguments = [base, exponent]) ∨
      function ≠ .pow ∧ ∃ argument, arguments = [argument] := by
  by_cases power : function = .pow
  · subst power
    exact .inl ⟨rfl, List.length_eq_two.1 count⟩
  · have single : function.arity = 1 := by
      cases function <;> first | rfl | exact absurd rfl power
    exact .inr ⟨power, List.length_eq_one_iff.1 (count.trans single)⟩

theorem apply_singleton : apply context function [x] = applyOne context function x := by
  cases function <;> rfl

section Domain

theorem ofAngle_congr {sine sine' : Binary64 → Binary64}
    (agree : ∀ x, x.isFinite = true → sine x = sine' x) (real : x.isNaN = false) :
    ofAngle settings function sine x = ofAngle settings function sine' x := by
  rw [ofAngle_eq, ofAngle_eq]
  split
  · rfl
  · rename_i bounded
    rw [agree _ (isFinite_toRadians (isFinite_of_not_isNaN real (Bool.eq_false_iff.2 bounded)))]

theorem ofPositive_congr {log log' : Binary64 → Binary64}
    (agree : ∀ x, zero.lt x = true → log x = log' x) (real : x.isNaN = false) :
    ofPositive function log x = ofPositive function log' x := by
  rw [ofPositive_eq, ofPositive_eq]
  split
  · rfl
  · rename_i above
    rw [agree x (by rw [lt_eq_not_le rfl real, Bool.eq_false_iff.2 above, Bool.not_false])]

end Domain

/-- A factorial is looked for at numbers only. -/
theorem ensures_factorialOf (real : x.isNaN = false) :
    Ensures (fun _ => True) Arithmetical (factorialOf settings x) := by
  rw [factorialOf_eq_match]
  split
  · exact .domain _
  · split
    · trivial
    · rename_i bounded
      obtain ⟨n, nearest⟩ :=
        exists_nearestInteger (isFinite_of_not_isNaN real (Bool.eq_false_iff.2 bounded))
      rw [nearest]
      dsimp only
      split
      · exact .domain _
      · split <;> trivial

theorem ensures_ofAngle {sine : Binary64 → Binary64} :
    Ensures (fun _ => True) Arithmetical (ofAngle settings function sine x) := by
  rw [ofAngle_eq]
  split
  · exact .domain _
  · trivial

theorem ensures_ofPositive {log : Binary64 → Binary64} :
    Ensures (fun _ => True) Arithmetical (ofPositive function log x) := by
  rw [ofPositive_eq]
  split
  · exact .domain _
  · trivial

/-- A function of one argument has a result, or its argument lies outside its domain; only a factorial
needs a number. -/
theorem ensures_applyOne (single : function ≠ .pow) (real : function = .fact → x.isNaN = false) :
    Ensures (fun _ => True) Arithmetical (applyOne context function x) := by
  cases function with
  | sqrt =>
      rw [applyOne_sqrt]
      split
      · exact .domain _
      · trivial
  | fact => exact ensures_factorialOf (real rfl)
  | sin => exact ensures_ofAngle
  | cos => exact ensures_ofAngle
  | tan => exact ensures_ofAngle
  | log => exact ensures_ofPositive
  | ln => exact ensures_ofPositive
  | exp =>
      rw [applyOne, exponential_eq]
      trivial
  | pow => exact absurd rfl single

/-- A function applied to as many numbers as it takes has a result, or fails for a reason of
arithmetic. -/
theorem ensures_apply (count : arguments.length = function.arity)
    (real : ∀ x ∈ arguments, x.isNaN = false) :
    Ensures (fun _ => True) Arithmetical (function.apply context arguments) := by
  rcases arguments_cases count with ⟨rfl, base, exponent, rfl⟩ | ⟨single, x, rfl⟩
  · exact ensures_ofPower
  · rw [apply_singleton]
    exact ensures_applyOne single fun _ => real x List.mem_cons_self

theorem applyOne_congr (agree : f.Agree g) (real : x.isNaN = false) :
    applyOne ⟨f, settings⟩ function x = applyOne ⟨g, settings⟩ function x := by
  cases function with
  | sin => exact ofAngle_congr agree.sin real
  | cos => exact ofAngle_congr agree.cos real
  | tan => exact ofAngle_congr agree.tan real
  | log => exact ofPositive_congr agree.log10 real
  | ln => exact ofPositive_congr agree.ln real
  | exp =>
      rw [applyOne, applyOne, exponential_eq, exponential_eq, agree.exp x real]
  | _ => rfl

/-- A function of numbers does not depend on the elementary functions outside their domains. -/
theorem apply_congr (agree : f.Agree g) (count : arguments.length = function.arity)
    (real : ∀ x ∈ arguments, x.isNaN = false) :
    function.apply ⟨f, settings⟩ arguments = function.apply ⟨g, settings⟩ arguments := by
  rcases arguments_cases count with ⟨rfl, base, exponent, rfl⟩ | ⟨single, x, rfl⟩
  · exact congrArg ofPower (power_congr agree)
  · rw [apply_singleton, apply_singleton]
    exact applyOne_congr agree (real x List.mem_cons_self)

end Builtin

end Reckoner
