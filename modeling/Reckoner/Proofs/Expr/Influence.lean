import Reckoner.Expr.Degrees
import Reckoner.Proofs.Binary64.Arithmetic
import Reckoner.Proofs.Expr.Meaning
import Reckoner.Proofs.Expr.Operation

/-!
# What the settings have an influence on

The unit of angles matters to the trigonometric functions and the tolerance to the factorial, and
neither matters to an expression that calls none of these; the other settings do not matter at all.  A
wider tolerance gives values to more factorials and changes none of the values that there are.

## Implementation notes

Both facts are one comparison of two evaluations: the second amends the first at the calls, and hence
in the whole tree.  For the first fact there is nothing to amend, for the second there are the
factorials of numbers that are too far from an integer.
-/

namespace Reckoner

open Binary64 (zero)

variable {f : Elementary} {settings settings' : Settings} {curable : Fault EvaluationError → Prop}

namespace Builtin

variable {function : Builtin} {x : Binary64}

theorem ofAngle_congr_unit {g : Binary64 → Binary64}
    (unit : settings.angleUnit = settings'.angleUnit) :
    ofAngle settings function g x = ofAngle settings' function g x := by
  rw [ofAngle_eq, ofAngle_eq, toRadians, toRadians]
  rw [unit]

/-- Factorials are compared by their tests of the distance from an integer. -/
theorem amends_factorialOf (test : ∀ distance,
      settings.integerTolerance.lt distance = settings'.integerTolerance.lt distance ∨
      settings.integerTolerance.lt distance = true ∧
        curable (.failure (.domain (.fractionalFactorial x)))) :
    Amends curable (factorialOf settings x) (factorialOf settings' x) := by
  rw [factorialOf_eq_match, factorialOf_eq_match]
  by_cases negative : x.lt zero = true
  · rw [if_pos negative, if_pos negative]
    exact .same _
  · rw [if_neg negative, if_neg negative]
    by_cases unbounded : x.isInfinite = true
    · rw [if_pos unbounded, if_pos unbounded]
      exact .same _
    · rw [if_neg unbounded, if_neg unbounded]
      cases x.nearestInteger? with
      | none => exact .same _
      | some n =>
          rcases test (x - Binary64.ofInt n).abs with same | ⟨far, cure⟩
          · dsimp only
            rw [same]
            exact .same _
          · dsimp only
            rw [if_pos far]
            exact .cured _ cure

theorem amends_applyOne
    (unit : settings.angleUnit = settings'.angleUnit ∨ function.name ∉ Expr.trigonometric)
    (factorial : function = .fact →
      Amends curable (factorialOf settings x) (factorialOf settings' x)) :
    Amends curable (applyOne ⟨f, settings⟩ function x) (applyOne ⟨f, settings'⟩ function x) := by
  cases function with
  | fact => exact factorial rfl
  | sin | cos | tan =>
      have same := unit.resolve_right (not_not_intro (by decide))
      unfold applyOne
      dsimp only
      rw [ofAngle_congr_unit same]
      exact .same _
  | sqrt | log | ln | exp | pow => exact .same _

/-- Only the trigonometric functions read the unit, and only the factorial reads the tolerance. -/
theorem amends_apply (arguments : List Binary64)
    (unit : settings.angleUnit = settings'.angleUnit ∨ function.name ∉ Expr.trigonometric)
    (factorial : function = .fact → ∀ x,
      Amends curable (factorialOf settings x) (factorialOf settings' x)) :
    Amends curable (function.apply ⟨f, settings⟩ arguments)
      (function.apply ⟨f, settings'⟩ arguments) := by
  match arguments with
  | [x] =>
      rw [apply_singleton, apply_singleton]
      exact amends_applyOne unit fun same => factorial same x
  | [] | [_, _] | _ :: _ :: _ :: _ => cases function <;> exact .same _

end Builtin

namespace Expr

mutual

/-- The names that an expression calls. -/
def callees : Expr → List String
  | .number _ => []
  | .constant _ _ => []
  | .negate operand => callees operand
  | .binary _ left right => callees left ++ callees right
  | .call name arguments => name :: calleesOfAll arguments

/-- The names that expressions call. -/
def calleesOfAll : List Expr → List String
  | [] => []
  | expr :: others => callees expr ++ calleesOfAll others

end

section Meaning

/-- Under the second settings, calls of the named functions amend those under the first. -/
def AmendsCalls (f : Elementary) (settings settings' : Settings)
    (curable : Fault EvaluationError → Prop) (names : List String) : Prop :=
  ∀ function : Builtin, function.name ∈ names → ∀ arguments,
    Amends curable (function.apply ⟨f, settings⟩ arguments)
      (function.apply ⟨f, settings'⟩ arguments)

theorem AmendsCalls.of_subset {names names' : List String}
    (h : AmendsCalls f settings settings' curable names) (subset : names' ⊆ names) :
    AmendsCalls f settings settings' curable names' :=
  fun function called => h function (subset called)

mutual

/-- An evaluation is amended if the calls in the tree are. -/
theorem amends_meaning (e : Expr) (h : AmendsCalls f settings settings' curable e.callees) :
    Amends curable (e.meaning ⟨f, settings⟩) (e.meaning ⟨f, settings'⟩) := by
  match e with
  | .number _ | .constant _ _ =>
      rw [meaning, meaning]
      exact .same _
  | .negate operand =>
      rw [callees] at h
      rw [meaning, meaning]
      exact (amends_meaning operand h).bind fun _ => .same _
  | .binary operator left right =>
      rw [callees] at h
      rw [meaning_operation, meaning_operation]
      apply (amends_meaning left (h.of_subset (List.subset_append_left _ _))).bind
      intro x
      apply (amends_meaning right (h.of_subset (List.subset_append_right _ _))).bind
      intro y
      exact .same _
  | .call name arguments =>
      rw [callees] at h
      cases known : Builtin.ofName? name with
      | none =>
          rw [meaning_call_of_unknown known, meaning_call_of_unknown known]
          exact .same _
      | some function =>
          cases Builtin.name_eq_of_ofName? known
          by_cases count : arguments.length = function.arity
          · rw [meaning_call count, meaning_call count]
            apply (amends_meanings arguments (h.of_subset (List.subset_cons_self _ _))).bind
            intro values
            exact (h function List.mem_cons_self values).bind fun _ => .same _
          · rw [meaning_call_of_count_ne count, meaning_call_of_count_ne count]
            exact .same _

/-- The same holds of the arguments of a call. -/
theorem amends_meanings (exprs : List Expr)
    (h : AmendsCalls f settings settings' curable (calleesOfAll exprs)) :
    Amends curable (meanings ⟨f, settings⟩ exprs) (meanings ⟨f, settings'⟩ exprs) := by
  match exprs with
  | [] =>
      rw [meanings, meanings]
      exact .same _
  | e :: others =>
      rw [calleesOfAll] at h
      rw [meanings, meanings]
      apply (amends_meaning e (h.of_subset (List.subset_append_left _ _))).bind
      intro x
      exact (amends_meanings others (h.of_subset (List.subset_append_right _ _))).bind
        fun _ => .same _

end

end Meaning

section Settings

variable {e : Expr}
  (angles : settings.angleUnit = settings'.angleUnit ∨ ∀ name ∈ e.callees, name ∉ trigonometric)
include angles

/-- Where the settings agree on what an expression uses, its outcome is the same. -/
theorem meaning_settings_congr
    (tolerance : settings.integerTolerance.place? = settings'.integerTolerance.place? ∨
      Builtin.fact.name ∉ e.callees) :
    e.meaning ⟨f, settings⟩ = e.meaning ⟨f, settings'⟩ := by
  apply Amends.eq
  apply amends_meaning
  intro function called arguments
  apply Builtin.amends_apply arguments (angles.imp_right fun other => other _ called)
  rintro rfl x
  have same := tolerance.resolve_right (not_not_intro called)
  exact Builtin.amends_factorialOf fun distance => .inl (Binary64.lt_congr_left same)

/-- Under a wider tolerance, an outcome is the same unless it was the failure of a factorial. -/
theorem amends_meaning_of_le
    (wider : settings.integerTolerance.le settings'.integerTolerance = true) :
    Amends (fun fault => ∃ x, fault = .failure (.domain (.fractionalFactorial x)))
      (e.meaning ⟨f, settings⟩) (e.meaning ⟨f, settings'⟩) := by
  apply amends_meaning
  intro function called arguments
  apply Builtin.amends_apply arguments (angles.imp_right fun other => other _ called)
  rintro - x
  apply Builtin.amends_factorialOf
  intro distance
  cases far : settings'.integerTolerance.lt distance with
  | true => exact .inl (Binary64.lt_of_le_of_lt wider far)
  | false =>
      cases settings.integerTolerance.lt distance with
      | true => exact .inr ⟨rfl, x, rfl⟩
      | false => exact .inl rfl

end Settings

/-- An expression has the same outcome under settings that agree on the unit of angles, unless it
calls no trigonometric function, and on the tolerance, unless it calls no factorial.  A value that it
has under one tolerance it has under every wider one, and so has a failure, other than that of the
factorial of a number too far from an integer. -/
theorem evaluate_settings (f : Elementary) (settings settings' : Settings) (e : Expr)
    (angles : settings.angleUnit = settings'.angleUnit ∨ ∀ name ∈ e.callees, name ∉ trigonometric) :
    (settings.integerTolerance.place? = settings'.integerTolerance.place? ∨
        Builtin.fact.name ∉ e.callees →
      e.evaluate ⟨f, settings⟩ = e.evaluate ⟨f, settings'⟩) ∧
    (settings.integerTolerance.le settings'.integerTolerance = true →
      (∀ x, e.evaluate ⟨f, settings⟩ = .ok x → e.evaluate ⟨f, settings'⟩ = .ok x) ∧
      ∀ fault, e.evaluate ⟨f, settings⟩ = .error fault →
        e.evaluate ⟨f, settings'⟩ = .error fault ∨
          ∃ x, fault = .failure (.domain (.fractionalFactorial x))) := by
  rw [evaluate, evaluate, evaluateChain_nil, evaluateChain_nil]
  refine ⟨meaning_settings_congr angles, fun wider => ?_⟩
  have amended : Amends _ (e.meaning ⟨f, settings⟩) (e.meaning ⟨f, settings'⟩) :=
    amends_meaning_of_le angles wider
  refine ⟨fun x value => ?_, fun fault failed => ?_⟩
  · rw [value] at amended
    exact amended.eq_ok
  · rw [failed] at amended
    exact amended.eq_error_or

/-- A factorial within two tolerances, under settings that agree on the tolerance only, and under
settings with a wider one. -/
theorem evaluate_settings_factorial :
    callees (.call "fact" [.number (Decimal.toBinary64 false ⟨295, -2⟩)]) = ["fact"] ∧
    evaluate ⟨.platform, ⟨64, .radians, Decimal.toBinary64 false ⟨1, -1⟩, none⟩⟩
      (.call "fact" [.number (Decimal.toBinary64 false ⟨295, -2⟩)]) = .ok (.ofNat 6) ∧
    evaluate ⟨.platform, ⟨2, .degrees, Decimal.toBinary64 false ⟨1, -1⟩, some 3⟩⟩
      (.call "fact" [.number (Decimal.toBinary64 false ⟨295, -2⟩)]) = .ok (.ofNat 6) ∧
    Binary64.le (Decimal.toBinary64 false ⟨1, -1⟩) (Decimal.toBinary64 false ⟨25, -2⟩) = true ∧
    evaluate ⟨.platform, ⟨2, .degrees, Decimal.toBinary64 false ⟨25, -2⟩, some 3⟩⟩
      (.call "fact" [.number (Decimal.toBinary64 false ⟨295, -2⟩)]) = .ok (.ofNat 6) := by
  have called : callees (.call "fact" [.number (Decimal.toBinary64 false ⟨295, -2⟩)]) =
      ["fact"] := rfl
  have angles : ∀ name ∈ callees (.call "fact" [.number (Decimal.toBinary64 false ⟨295, -2⟩)]),
      name ∉ trigonometric := by
    rw [called]
    decide
  have value : evaluate ⟨.platform, ⟨64, .radians, Decimal.toBinary64 false ⟨1, -1⟩, none⟩⟩
      (.call "fact" [.number (Decimal.toBinary64 false ⟨295, -2⟩)]) = .ok (.ofNat 6) := by
    decide +kernel
  have wider : Binary64.le (Decimal.toBinary64 false ⟨1, -1⟩)
      (Decimal.toBinary64 false ⟨25, -2⟩) = true := by
    decide +kernel
  obtain ⟨same, -⟩ := evaluate_settings .platform
    ⟨64, .radians, Decimal.toBinary64 false ⟨1, -1⟩, none⟩
    ⟨2, .degrees, Decimal.toBinary64 false ⟨1, -1⟩, some 3⟩ _ (.inr angles)
  obtain ⟨-, kept⟩ := evaluate_settings .platform
    ⟨64, .radians, Decimal.toBinary64 false ⟨1, -1⟩, none⟩
    ⟨2, .degrees, Decimal.toBinary64 false ⟨25, -2⟩, some 3⟩ _ (.inr angles)
  exact ⟨called, value, (same (.inl rfl)).symm.trans value, wider, (kept wider).1 _ value⟩

end Expr

end Reckoner
