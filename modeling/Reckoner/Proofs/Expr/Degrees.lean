import Reckoner.Expr.Degrees
import Reckoner.Proofs.Expr.WellFormed

/-!
# Degrees are a rewriting of the expression

An expression means in degrees what the expression with converted angles means in radians: the same
number, or the same failure.

## Implementation notes

The two evaluations differ at the calls of trigonometric functions.  There the one checks the angle
and converts it, and the other converts it and checks the product.  An infinite angle stays the same
infinity and a finite one stays finite, so that the checks agree; the product is no NaN, since no
value of an expression is one.
-/

namespace Reckoner

open Binary64 (infinite)

variable {f : Elementary} {settings : Settings} {function : Builtin} {x : Binary64}

/-- The settings with another unit of angles. -/
def Settings.measuredIn (settings : Settings) (unit : AngleUnit) : Settings :=
  { settings with angleUnit := unit }

namespace Builtin

/-- An infinity is not changed by the conversion from degrees, and a finite number stays finite. -/
theorem mul_radiansPerDegree_cases (real : x.isNaN = false) :
    (∃ negative, x = infinite negative ∧ x * radiansPerDegree = infinite negative) ∨
      x.isFinite = true ∧ (x * radiansPerDegree).isFinite = true := by
  obtain ⟨magnitude, value, positive, small⟩ := radiansPerDegree_le_one
  cases x with
  | nan => cases real
  | infinite negative =>
      refine .inl ⟨negative, rfl, ?_⟩
      rw [value, Binary64.mul_infinite_finite positive]
      cases negative <;> rfl
  | finite negative magnitude' =>
      rw [value]
      exact .inr ⟨rfl, Binary64.isFinite_mul rfl small⟩

/-- The product with the number of radians in a degree never fails. -/
theorem apply_mul_radiansPerDegree (context : Context) (real : x.isNaN = false) :
    Operator.mul.apply context x radiansPerDegree = .ok (x * radiansPerDegree) := by
  have product : (x * radiansPerDegree).isNaN = false := by
    rcases mul_radiansPerDegree_cases real with ⟨negative, -, same⟩ | ⟨-, finite⟩
    · rw [same]
      rfl
    · exact Binary64.isNaN_of_isFinite finite
  exact if_neg (Bool.eq_false_iff.1 product)

theorem ofAngle_of_isInfinite {g : Binary64 → Binary64} (unbounded : x.isInfinite = true) :
    ofAngle settings function g x = outsideDomain (.infiniteAngle function x) :=
  if_pos unbounded

theorem ofAngle_of_isFinite {g : Binary64 → Binary64} (bounded : x.isFinite = true) :
    ofAngle settings function g x = .ok (g (toRadians settings x)) := by
  rw [ofAngle_eq, Binary64.isInfinite_of_isFinite bounded]
  exact if_neg Bool.false_ne_true

/-- A function of an angle in degrees is the function of the converted angle in radians. -/
theorem ofAngle_measuredIn {g : Binary64 → Binary64} (real : x.isNaN = false) :
    ofAngle (settings.measuredIn .radians) function g (x * radiansPerDegree) =
      ofAngle (settings.measuredIn .degrees) function g x := by
  rcases mul_radiansPerDegree_cases real with ⟨negative, rfl, same⟩ | ⟨bounded, bounded'⟩
  · rw [same, ofAngle_of_isInfinite rfl, ofAngle_of_isInfinite rfl]
  · have radians : toRadians (settings.measuredIn .radians) (x * radiansPerDegree) =
        x * radiansPerDegree := rfl
    have degrees : toRadians (settings.measuredIn .degrees) x = x * radiansPerDegree := rfl
    rw [ofAngle_of_isFinite bounded, ofAngle_of_isFinite bounded', radians, degrees]

theorem applyOne_trigonometric (trigonometric : Expr.trigonometric.contains function.name = true)
    (real : x.isNaN = false) :
    applyOne ⟨f, settings.measuredIn .radians⟩ function (x * radiansPerDegree) =
      applyOne ⟨f, settings.measuredIn .degrees⟩ function x := by
  cases function with
  | sin => exact ofAngle_measuredIn real
  | cos => exact ofAngle_measuredIn real
  | tan => exact ofAngle_measuredIn real
  | sqrt | fact | log | ln | exp | pow => exact absurd trigonometric (by decide)

/-- The other functions do not depend on the unit of angles. -/
theorem apply_of_not_trigonometric {arguments : List Binary64}
    (other : Expr.trigonometric.contains function.name = false)
    (count : arguments.length = function.arity) :
    function.apply ⟨f, settings.measuredIn .radians⟩ arguments =
      function.apply ⟨f, settings.measuredIn .degrees⟩ arguments := by
  rcases arguments_cases count with ⟨rfl, base, exponent, rfl⟩ | ⟨-, x, rfl⟩
  · rfl
  · rw [apply_singleton, apply_singleton]
    cases function with
    | sin | cos | tan => exact absurd other (by decide)
    | sqrt | fact | log | ln | exp | pow => rfl

end Builtin

namespace Expr

/-- No leaf of the tree is NaN. -/
inductive RealLeaves : Expr → Prop
  | number {value} : value.isNaN = false → RealLeaves (.number value)
  | constant {name value} : value.isNaN = false → RealLeaves (.constant name value)
  | negate {operand} : RealLeaves operand → RealLeaves (.negate operand)
  | binary {operator left right} : RealLeaves left → RealLeaves right →
      RealLeaves (.binary operator left right)
  | call {name arguments} : (∀ argument ∈ arguments, RealLeaves argument) →
      RealLeaves (.call name arguments)

variable {context : Context} {e : Expr}

/-- The value of a tree without NaN leaves is not NaN. -/
theorem RealLeaves.ensures_meaning (h : RealLeaves e) :
    Ensures (·.isNaN = false) (fun _ => True) (meaning context e) := by
  induction h with
  | number real =>
      rw [meaning]
      exact real
  | constant real =>
      rw [meaning]
      exact real
  | negate _ ih =>
      rw [meaning]
      apply ih.and_then
      intro value real
      exact Binary64.isNaN_neg.trans real
  | binary _ _ left right =>
      rw [meaning]
      apply left.and_then
      intro leftValue _
      apply right.and_then
      intro rightValue _
      exact Operator.ensures_apply.mono (fun _ real => real) fun _ _ => trivial
  | @call name arguments _ _ =>
      cases known : Builtin.ofName? name with
      | none =>
          rw [meaning_call_of_unknown known]
          trivial
      | some function =>
          cases Builtin.name_eq_of_ofName? known
          by_cases count : arguments.length = function.arity
          · rw [meaning_call count]
            apply (Ensures.somehow _).and_then
            intro values _
            apply (Ensures.somehow _).and_then
            intro result _
            exact ensures_realOr.mono (fun _ real => real) fun _ _ => trivial
          · rw [meaning_call_of_count_ne count]
            trivial

theorem inDegreesAll_eq_map (exprs : List Expr) : inDegreesAll exprs = exprs.map inDegrees := by
  induction exprs with
  | nil => rfl
  | cons expr others ih => rw [inDegreesAll, ih, List.map_cons]

theorem length_inDegreesAll (exprs : List Expr) : (inDegreesAll exprs).length = exprs.length := by
  rw [inDegreesAll_eq_map, List.length_map]

/-- A rewritten call is a call of the same name with as many arguments. -/
theorem exists_call_inDegrees (name : String) (arguments : List Expr) :
    ∃ converted, (call name arguments).inDegrees = call name converted ∧
      converted.length = arguments.length := by
  rw [inDegrees]
  split
  case isTrue => exact ⟨_, rfl, by rw [List.length_map, length_inDegreesAll]⟩
  case isFalse => exact ⟨_, rfl, length_inDegreesAll arguments⟩

theorem meaning_scaledToRadians
    (real : Ensures (·.isNaN = false) (fun _ => True) (meaning context e)) :
    meaning context e.scaledToRadians =
      (do return (← meaning context e) * Builtin.radiansPerDegree) := by
  have factor : meaning context (.constant "degree" Builtin.radiansPerDegree) =
      pure Builtin.radiansPerDegree := by
    rw [meaning]
    rfl
  rw [scaledToRadians, meaning_operation, factor]
  simp only [pure_bind]
  refine real.bind_congr fun x real => ?_
  rw [Builtin.apply_mul_radiansPerDegree context real]
  rfl

section Calls

variable {arguments : List Expr}
  (real : ∀ e ∈ arguments, Ensures (·.isNaN = false) (fun _ => True)
    (meaning ⟨f, settings.measuredIn .degrees⟩ e))
  (same : ∀ e ∈ arguments, meaning ⟨f, settings.measuredIn .radians⟩ e.inDegrees =
    meaning ⟨f, settings.measuredIn .degrees⟩ e)
include real same

/-- A rewritten call has the value that the call has in degrees, if the arguments have. -/
theorem meaning_call_inDegrees (count : arguments.length = function.arity) :
    meaning ⟨f, settings.measuredIn .radians⟩ (call function.name arguments).inDegrees =
      meaning ⟨f, settings.measuredIn .degrees⟩ (call function.name arguments) := by
  rw [inDegrees]
  split
  case isTrue trigonometric =>
    rcases Builtin.arguments_cases count with ⟨rfl, -⟩ | ⟨-, e, rfl⟩
    · exact absurd trigonometric (by decide)
    · have real := real e List.mem_cons_self
      have same := same e List.mem_cons_self
      have count' : [e.inDegrees.scaledToRadians].length = function.arity := count
      rw [inDegreesAll_eq_map, List.map_singleton, List.map_singleton, meaning_call count,
        meaning_call count', meanings_singleton, meanings_singleton,
        meaning_scaledToRadians (same ▸ real), same]
      simp only [bind_assoc, pure_bind]
      refine real.bind_congr fun x real => ?_
      rw [Builtin.apply_singleton, Builtin.apply_singleton,
        Builtin.applyOne_trigonometric trigonometric real]
  case isFalse other =>
    have count' : (inDegreesAll arguments).length = function.arity :=
      (length_inDegreesAll arguments).trans count
    rw [meaning_call count, meaning_call count', inDegreesAll_eq_map, meanings_map same]
    refine (ensures_meanings real).bind_congr fun values ⟨length, _⟩ => ?_
    rw [Builtin.apply_of_not_trigonometric (Bool.eq_false_iff.2 other) (length.trans count)]

end Calls

/-- The rewritten expression has the meaning in radians that the expression has in degrees. -/
theorem RealLeaves.meaning_inDegrees (h : RealLeaves e) :
    meaning ⟨f, settings.measuredIn .radians⟩ e.inDegrees =
      meaning ⟨f, settings.measuredIn .degrees⟩ e := by
  induction h with
  | number => rw [inDegrees, meaning, meaning]
  | constant => rw [inDegrees, meaning, meaning]
  | negate _ ih => rw [inDegrees, meaning, meaning, ih]
  | binary _ _ left right =>
      rw [inDegrees, meaning, meaning, left, right]
      rfl
  | @call name arguments inner ih =>
      obtain ⟨converted, rewritten, length⟩ := exists_call_inDegrees name arguments
      cases known : Builtin.ofName? name with
      | none => rw [rewritten, meaning_call_of_unknown known, meaning_call_of_unknown known]
      | some function =>
          cases Builtin.name_eq_of_ofName? known
          by_cases count : arguments.length = function.arity
          · exact meaning_call_inDegrees (fun e mem => (inner e mem).ensures_meaning) ih count
          · rw [rewritten, meaning_call_of_count_ne count,
              meaning_call_of_count_ne (by rwa [length]), length]

/-- A tree without NaN leaves has the outcome in degrees that the rewritten tree has in radians: the
same number, or the same failure. -/
theorem evaluate_inDegrees (f : Elementary) (settings : Settings) (e : Expr) (h : RealLeaves e) :
    e.inDegrees.evaluate ⟨f, settings.measuredIn .radians⟩ =
      e.evaluate ⟨f, settings.measuredIn .degrees⟩ := by
  have left : e.inDegrees.evaluate ⟨f, settings.measuredIn .radians⟩ = _ := evaluateChain_nil _ _
  have right : e.evaluate ⟨f, settings.measuredIn .degrees⟩ = _ := evaluateChain_nil _ _
  rw [left, right]
  exact h.meaning_inDegrees

/-- Both angles of a nested call are converted; the elementary functions are taken to be the
identity. -/
theorem evaluate_inDegrees_nested :
    RealLeaves (.call "tan" [.call "sin" [.number (.ofNat 90)]]) ∧
    inDegrees (.call "tan" [.call "sin" [.number (.ofNat 90)]]) =
      .call "tan" [scaledToRadians (.call "sin" [scaledToRadians (.number (.ofNat 90))])] ∧
    evaluate ⟨⟨id, id, id, id, id, id, fun x _ => x⟩, Settings.default.measuredIn .degrees⟩
      (.call "tan" [.call "sin" [.number (.ofNat 90)]]) =
        .ok (.ofNat 90 * Builtin.radiansPerDegree * Builtin.radiansPerDegree) ∧
    evaluate ⟨⟨id, id, id, id, id, id, fun x _ => x⟩, Settings.default.measuredIn .radians⟩
      (.call "tan" [scaledToRadians (.call "sin" [scaledToRadians (.number (.ofNat 90))])]) =
        .ok (.ofNat 90 * Builtin.radiansPerDegree * Builtin.radiansPerDegree) := by
  have real : RealLeaves (.call "tan" [.call "sin" [.number (.ofNat 90)]]) := by
    refine .call fun _ mem => ?_
    cases List.mem_singleton.1 mem
    refine .call fun _ mem => ?_
    cases List.mem_singleton.1 mem
    exact .number Binary64.isNaN_ofRatio
  have rewritten : inDegrees (.call "tan" [.call "sin" [.number (.ofNat 90)]]) =
      .call "tan" [scaledToRadians (.call "sin" [scaledToRadians (.number (.ofNat 90))])] := rfl
  have value : evaluate
      ⟨⟨id, id, id, id, id, id, fun x _ => x⟩, Settings.default.measuredIn .degrees⟩
      (.call "tan" [.call "sin" [.number (.ofNat 90)]]) =
        .ok (.ofNat 90 * Builtin.radiansPerDegree * Builtin.radiansPerDegree) := by
    decide +kernel
  have same := evaluate_inDegrees ⟨id, id, id, id, id, id, fun x _ => x⟩ Settings.default _ real
  rw [value, rewritten] at same
  exact ⟨real, rewritten, value, same⟩

end Expr

end Reckoner
