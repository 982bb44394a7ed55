import Reckoner.Proofs.Expr.Degrees
import Reckoner.Proofs.Power

/-!
# The two spellings of a power

A power is spelled as an operation or as a call.  Either spelling evaluates the base, then the
exponent, and then raises the one value to the other.  The two spellings part in what they report if
the result is NaN, and it never is for operands that are numbers.  Where there is no real power, both
report the reason if the operands are finite, and both have a result if one of them is infinite.

## Implementation notes

`powers` lists the spellings, and `meaning_powers` is the only place where they are told apart.  It
asks of the operands that their values are numbers, so that it serves operands that are known to be
free of NaN as well as operands with a given value.
-/

namespace Reckoner

open Binary64 (zero infinite ofNat)

section Checks

variable {context : Context} {outcome : Except DomainError Binary64} {cause : DomainError}
  {base exponent : Binary64}

/-- The check for NaN after a power has nothing to report if the power is a number. -/
theorem ofPower_bind_realOr (real : Ensures (·.isNaN = false) (fun _ => True) outcome) :
    (ofPower outcome >>= realOr cause) = ofPower outcome := by
  cases outcome with
  | error _ => rfl
  | ok x => exact if_neg (Bool.eq_false_iff.1 real)

variable (real : base.isNaN = false) (real' : exponent.isNaN = false)
include real real'

theorem Operator.apply_pow :
    Operator.pow.apply context base exponent = ofPower (power context.elementary base exponent) :=
  ofPower_bind_realOr (ensures_power real real')

theorem Builtin.apply_pow :
    (Builtin.pow.apply context [base, exponent] >>= realOr cause) =
      ofPower (power context.elementary base exponent) :=
  ofPower_bind_realOr (ensures_power real real')

end Checks

namespace Expr

variable {context : Context} {a b : Expr} {x y : Binary64}

/-- The spellings of the power of one expression to another. -/
def powers (a b : Expr) : List Expr := [.binary .pow a b, .call Builtin.pow.name [a, b]]

/-- Either spelling means that the value of the first operand is raised to that of the second. -/
theorem meaning_powers (real : Ensures (·.isNaN = false) (fun _ => True) (meaning context a))
    (real' : Ensures (·.isNaN = false) (fun _ => True) (meaning context b)) :
    ∀ e ∈ powers a b, meaning context e = (do
      let x ← meaning context a
      let y ← meaning context b
      ofPower (power context.elementary x y)) := by
  intro e spelling
  rcases List.mem_pair.1 spelling with rfl | rfl
  · rw [meaning_operation]
    refine real.bind_congr fun x numeric => real'.bind_congr fun y numeric' => ?_
    exact Operator.apply_pow numeric numeric'
  · have count : [a, b].length = Builtin.pow.arity := rfl
    rw [meaning_call count, meanings_pair]
    simp only [bind_assoc, pure_bind]
    refine real.bind_congr fun x numeric => real'.bind_congr fun y numeric' => ?_
    exact Builtin.apply_pow numeric numeric'

/-- The power of operands with known values. -/
theorem evaluate_powers (left : a.evaluate context = .ok x) (right : b.evaluate context = .ok y)
    (real : x.isNaN = false) (real' : y.isNaN = false) :
    ∀ e ∈ powers a b, e.evaluate context = ofPower (power context.elementary x y) := by
  rw [evaluate, evaluateChain_nil] at left right
  intro e spelling
  rw [evaluate, evaluateChain_nil, meaning_powers (left ▸ real) (right ▸ real') e spelling, left,
    right]
  rfl

/-- Both spellings of a power have the same outcome: the same number, or the same failure. -/
theorem evaluate_power_spellings (context : Context) (a b : Expr) (h : RealLeaves a)
    (h' : RealLeaves b) :
    (binary .pow a b).evaluate context = (call Builtin.pow.name [a, b]).evaluate context := by
  have same : ∀ e ∈ powers a b, meaning context e = _ :=
    meaning_powers h.ensures_meaning h'.ensures_meaning
  rw [evaluate, evaluate, evaluateChain_nil, evaluateChain_nil, same _ List.mem_cons_self,
    same _ (List.mem_cons_of_mem _ List.mem_cons_self)]

/-- The failure at a base that is a chain of operations. -/
theorem evaluate_power_spellings_chain :
    RealLeaves (.binary .sub (.binary .sub (.number (ofNat 1)) (.number (ofNat 8)))
      (.number (ofNat 1))) ∧
    RealLeaves (.number (ofNat 1 / ofNat 2)) ∧
    ∀ e ∈ powers
        (.binary .sub (.binary .sub (.number (ofNat 1)) (.number (ofNat 8))) (.number (ofNat 1)))
        (.number (ofNat 1 / ofNat 2)),
      e.evaluate ⟨.extreme, .default⟩ =
        outsideDomain (.powerNotReal (-ofNat 8) (ofNat 1 / ofNat 2)) := by
  have chain : RealLeaves (.binary .sub (.binary .sub (.number (ofNat 1)) (.number (ofNat 8)))
      (.number (ofNat 1))) :=
    .binary (.binary (.number Binary64.isNaN_ofRatio) (.number Binary64.isNaN_ofRatio))
      (.number Binary64.isNaN_ofRatio)
  have half : RealLeaves (.number (ofNat 1 / ofNat 2)) := .number (by decide +kernel)
  have failure : (Expr.binary .pow
        (.binary .sub (.binary .sub (.number (ofNat 1)) (.number (ofNat 8))) (.number (ofNat 1)))
        (.number (ofNat 1 / ofNat 2))).evaluate ⟨.extreme, .default⟩ =
      outsideDomain (.powerNotReal (-ofNat 8) (ofNat 1 / ofNat 2)) := by
    decide +kernel
  refine ⟨chain, half, fun e spelling => ?_⟩
  rcases List.mem_pair.1 spelling with rfl | rfl
  · exact failure
  · exact (evaluate_power_spellings ⟨.extreme, .default⟩ _ _ chain half).symm.trans failure

/-- Where there is no real power, the reason is reported if both operands are finite.  With an
infinite operand there is a result nevertheless. -/
theorem evaluate_power_of_lacksPower (context : Context)
    (standard : context.elementary.StandardPower) (a b : Expr) (x y : Binary64)
    (cause : DomainError) (left : a.evaluate context = .ok x) (right : b.evaluate context = .ok y)
    (lacks : LacksPower x y cause) :
    ∀ e ∈ powers a b, e.evaluate context =
      if x.isFinite && y.isFinite then outsideDomain cause
      else .ok (if x.isInfinite && y.lt zero then zero else infinite false) := by
  intro e spelling
  obtain ⟨real, real'⟩ := lacks.real
  rw [evaluate_powers left right real real' e spelling]
  split
  case isTrue bounded =>
    rw [Bool.and_eq_true] at bounded
    rw [power_of_lacksPower standard bounded.1 bounded.2 lacks]
    rfl
  case isFalse unbounded =>
    rw [power_of_lacksPower_of_infinite lacks (Bool.eq_false_iff.2 unbounded)]
    rfl

/-- One half is no integer. -/
theorem value_half_ne (n : ℤ) : (ofNat 1 / ofNat 2).value ≠ n := by
  have half : ofNat 1 / ofNat 2 = .finite false ⟨0x3fe0000000000000, by decide⟩ := by
    decide +kernel
  intro integer
  rw [half] at integer
  exact absurd (Binary64.isInteger_iff_value.2 ⟨n, integer⟩) (by decide +kernel)

/-- Minus eight raised to one half. -/
theorem evaluate_power_of_lacksPower_half :
    Elementary.extreme.StandardPower ∧
    (Expr.negate (.number (ofNat 8))).evaluate ⟨.extreme, .default⟩ = .ok (-ofNat 8) ∧
    (Expr.number (ofNat 1 / ofNat 2)).evaluate ⟨.extreme, .default⟩ = .ok (ofNat 1 / ofNat 2) ∧
    LacksPower (-ofNat 8) (ofNat 1 / ofNat 2) (.powerNotReal (-ofNat 8) (ofNat 1 / ofNat 2)) ∧
    ∀ e ∈ powers (.negate (.number (ofNat 8))) (.number (ofNat 1 / ofNat 2)),
      e.evaluate ⟨.extreme, .default⟩ =
        outsideDomain (.powerNotReal (-ofNat 8) (ofNat 1 / ofNat 2)) := by
  have left : (Expr.negate (.number (ofNat 8))).evaluate ⟨.extreme, .default⟩ =
      .ok (-ofNat 8) := rfl
  have right : (Expr.number (ofNat 1 / ofNat 2)).evaluate ⟨.extreme, .default⟩ =
      .ok (ofNat 1 / ofNat 2) := rfl
  have lacks : LacksPower (-ofNat 8) (ofNat 1 / ofNat 2)
      (.powerNotReal (-ofNat 8) (ofNat 1 / ofNat 2)) :=
    .negative (by decide +kernel) (by decide +kernel) value_half_ne
  have bounded : ((-ofNat 8).isFinite && (ofNat 1 / ofNat 2).isFinite) = true := by
    decide +kernel
  have outcome := evaluate_power_of_lacksPower ⟨.extreme, .default⟩ standardPower_extreme _ _ _ _ _
    left right lacks
  rw [if_pos bounded] at outcome
  exact ⟨standardPower_extreme, left, right, lacks, outcome⟩

/-- Zero has no real power with a negative infinite exponent, and the negative infinity none with one
half for an exponent, yet in both spellings these powers are infinite. -/
theorem evaluate_power_negative_infinity :
    (Expr.number zero).evaluate ⟨.extreme, .default⟩ = .ok zero ∧
    (Expr.negate (.call "fact" [.number (ofNat 171)])).evaluate ⟨.extreme, .default⟩ =
      .ok (infinite true) ∧
    (Expr.number (ofNat 1 / ofNat 2)).evaluate ⟨.extreme, .default⟩ = .ok (ofNat 1 / ofNat 2) ∧
    LacksPower zero (infinite true) .zeroToNegativePower ∧
    LacksPower (infinite true) (ofNat 1 / ofNat 2)
      (.powerNotReal (infinite true) (ofNat 1 / ofNat 2)) ∧
    ∀ e ∈ powers (.number zero) (.negate (.call "fact" [.number (ofNat 171)])) ++
        powers (.negate (.call "fact" [.number (ofNat 171)])) (.number (ofNat 1 / ofNat 2)),
      e.evaluate ⟨.extreme, .default⟩ = .ok (infinite false) :=
  ⟨rfl, by decide +kernel, rfl, .zero (by decide) (by decide),
    .negative (by decide) (by decide +kernel) value_half_ne, by decide +kernel⟩

end Expr

end Reckoner
