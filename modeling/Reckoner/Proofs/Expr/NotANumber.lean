import Reckoner.Proofs.Expr.Meaning
import Reckoner.Proofs.Expr.Operation

/-!
# Where NaN comes from and where it goes

The value of an expression is NaN exactly if the expression consists of negations over a leaf that
is NaN.  An operation or a call that is given such a leaf has a number for a result or fails for a
reason of arithmetic, except for the factorial, which needs a number.

## Implementation notes

Neither an operation nor a call has the value NaN, so that the induction has to follow NaN through
negations alone.  A misuse is explained by a call that is a part of the expression, and what
explains the fault of an operand explains it for the whole.
-/

namespace Reckoner

open Binary64 (nan)

theorem Binary64.neg_eq_nan_iff {x : Binary64} : -x = nan ↔ x = nan := by
  cases x with
  | nan => exact Iff.rfl
  | infinite negative => exact iff_of_false nofun nofun
  | finite negative magnitude => exact iff_of_false nofun nofun

namespace Builtin

variable {context : Context} {function : Builtin} {x : Binary64}

/-- A function of one argument, which may be NaN, has a result or fails for a reason of arithmetic,
unless it is the factorial of NaN. -/
theorem ensures_applyOne_or_nan (single : function ≠ .pow) :
    Ensures (fun _ => True)
      (fun fault => Arithmetical fault ∨
        (function = .fact ∧ x = nan) ∧ fault = .misuse .roundedNaN)
      (applyOne context function x) := by
  by_cases factorial : function = .fact ∧ x = nan
  · obtain ⟨rfl, rfl⟩ := factorial
    exact .inr ⟨⟨rfl, rfl⟩, rfl⟩
  · have real (same : function = .fact) : x.isNaN = false := by
      cases x with
      | nan => exact absurd ⟨same, rfl⟩ factorial
      | infinite negative => rfl
      | finite negative magnitude => rfl
    exact (ensures_applyOne single real).mono (fun _ _ => trivial) fun _ => .inl

end Builtin

namespace Expr

section Parts

/-- The expression consists of negations, if any, over a leaf that is NaN. -/
inductive NegatedNaN : Expr → Prop
  | number : NegatedNaN (.number nan)
  | constant (name : String) : NegatedNaN (.constant name nan)
  | negate {operand} : NegatedNaN operand → NegatedNaN (.negate operand)

theorem negatedNaN_negate_iff {operand : Expr} :
    (negate operand).NegatedNaN ↔ operand.NegatedNaN := by
  refine ⟨?_, .negate⟩
  rintro (_ | _ | isNaN)
  exact isNaN

/-- The first expression is the second one or a part of it. -/
inductive PartOf (part : Expr) : Expr → Prop
  | itself : PartOf part part
  | operand {operand} : PartOf part operand → PartOf part (.negate operand)
  | left {operator left right} : PartOf part left → PartOf part (.binary operator left right)
  | right {operator left right} : PartOf part right → PartOf part (.binary operator left right)
  | argument {name arguments argument} : argument ∈ arguments → PartOf part argument →
      PartOf part (.call name arguments)

/-- A factorial of one argument, which is NaN however often it is negated, is a part of the
expression. -/
def HasFactorialOfNaN (e : Expr) : Prop :=
  ∃ argument : Expr, argument.NegatedNaN ∧ PartOf (.call Builtin.fact.name [argument]) e

/-- If the fault is a misuse, it is that of a factorial of NaN, and the expression has one. -/
def Explains (e : Expr) (fault : Fault EvaluationError) : Prop :=
  ∀ cause, fault = .misuse cause → cause = .roundedNaN ∧ e.HasFactorialOfNaN

variable {fault : Fault EvaluationError} {d e : Expr}

theorem Explains.of_arithmetical (h : Arithmetical fault) : e.Explains fault := by
  rintro cause rfl
  cases h

theorem Explains.of_failure (cause : EvaluationError) : e.Explains (.failure cause) := nofun

/-- What explains a fault explains it wherever it is a part. -/
theorem Explains.mono (h : d.Explains fault) (inside : ∀ part, PartOf part d → PartOf part e) :
    e.Explains fault := by
  intro cause same
  obtain ⟨rounded, argument, isNaN, occurs⟩ := h cause same
  exact ⟨rounded, argument, isNaN, inside _ occurs⟩

end Parts

section Meaning

variable {context : Context} {e : Expr} {arguments : List Expr} {function : Builtin}

theorem NegatedNaN.meaning_eq (h : e.NegatedNaN) : meaning context e = .ok nan := by
  induction h with
  | number => rw [meaning]
  | constant name => rw [meaning]
  | negate _ ih =>
      rw [meaning, ih]
      rfl

theorem NegatedNaN.meaning_factorial (h : e.NegatedNaN) :
    meaning context (.call Builtin.fact.name [e]) = .error (.misuse .roundedNaN) := by
  rw [meaning_call rfl, meanings_singleton, h.meaning_eq]
  rfl

/-- The outcome follows NaN through the expression: a value is NaN exactly for negations over NaN,
and a misuse is explained. -/
def FollowsNaN (e : Expr) : Evaluated Binary64 → Prop :=
  Ensures (fun x => x = nan ↔ e.NegatedNaN) e.Explains

/-- An outcome of arithmetic on numbers follows NaN through all but leaves and negations. -/
theorem FollowsNaN.of_arithmetical {outcome : Evaluated Binary64} (other : ¬e.NegatedNaN)
    (h : Ensures (·.isNaN = false) Arithmetical outcome) : e.FollowsNaN outcome := by
  refine h.mono (fun x real => iff_of_false ?_ other) fun _ => .of_arithmetical
  rintro rfl
  cases real

theorem followsNaN_operation {operator : Operator} {left right : Expr}
    (hl : left.FollowsNaN (meaning context left)) (hr : right.FollowsNaN (meaning context right)) :
    (binary operator left right).FollowsNaN (meaning context (.binary operator left right)) := by
  rw [meaning_operation]
  refine hl.bind (fun x _ => ?_) fun _ explained => explained.mono fun _ => .left
  refine hr.bind (fun y _ => ?_) fun _ explained => explained.mono fun _ => .right
  exact FollowsNaN.of_arithmetical nofun Operator.ensures_apply

theorem followsNaN_call (count : arguments.length = function.arity)
    (h : ∀ argument ∈ arguments, argument.FollowsNaN (meaning context argument)) :
    (call function.name arguments).FollowsNaN
      (meaning context (.call function.name arguments)) := by
  have finish (x : Binary64) : (call function.name arguments).FollowsNaN
      (realOr (.functionWithoutResult function) x) := .of_arithmetical nofun ensures_realOr
  have inside (argument : Expr) (mem : argument ∈ arguments) (fault : Fault EvaluationError)
      (explained : argument.Explains fault) : (call function.name arguments).Explains fault :=
    explained.mono fun _ => .argument mem
  rw [meaning_call count]
  rcases Builtin.arguments_cases count with ⟨rfl, base, exponent, rfl⟩ | ⟨single, argument, rfl⟩
  · obtain ⟨hb, he⟩ := List.forall_mem_cons.1 h
    rw [meanings_pair]
    simp only [bind_assoc, pure_bind]
    refine hb.bind (fun x _ => ?_) (inside base (by simp))
    refine (List.forall_mem_singleton.1 he).bind (fun y _ => ?_) (inside exponent (by simp))
    exact ensures_ofPower.bind (fun z _ => finish z) fun _ => .of_arithmetical
  · rw [meanings_singleton]
    simp only [bind_assoc, pure_bind]
    refine (List.forall_mem_singleton.1 h).bind (fun x same => ?_) (inside argument (by simp))
    rw [Builtin.apply_singleton]
    refine (Builtin.ensures_applyOne_or_nan single).bind (fun z _ => finish z) ?_
    rintro fault (arithmetical | ⟨⟨rfl, isNaN⟩, rfl⟩)
    · exact .of_arithmetical arithmetical
    · rintro _ ⟨⟩
      exact ⟨rfl, argument, same.1 isNaN, .itself⟩

mutual

/-- Evaluation follows NaN through every expression. -/
theorem followsNaN_meaning (e : Expr) : e.FollowsNaN (meaning context e) := by
  match e with
  | .number value =>
      rw [meaning]
      constructor
      · rintro rfl
        exact .number
      · rintro ⟨⟩
        rfl
  | .constant name value =>
      rw [meaning]
      constructor
      · rintro rfl
        exact .constant name
      · rintro ⟨⟩
        rfl
  | .negate operand =>
      rw [meaning]
      refine (followsNaN_meaning operand).bind (fun x same => ?_)
        fun _ explained => explained.mono fun _ => .operand
      exact (Binary64.neg_eq_nan_iff.trans same).trans negatedNaN_negate_iff.symm
  | .binary operator left right =>
      exact followsNaN_operation (followsNaN_meaning left) (followsNaN_meaning right)
  | .call name arguments =>
      cases known : Builtin.ofName? name with
      | none =>
          rw [meaning_call_of_unknown known]
          exact .of_failure _
      | some function =>
          cases Builtin.name_eq_of_ofName? known
          by_cases count : arguments.length = function.arity
          · exact followsNaN_call count (followsNaN_meanings arguments)
          · rw [meaning_call_of_count_ne count]
            exact .of_failure _

/-- The same holds of the arguments of a call. -/
theorem followsNaN_meanings (exprs : List Expr) :
    ∀ e ∈ exprs, e.FollowsNaN (meaning context e) := by
  match exprs with
  | [] => exact nofun
  | e :: others =>
      exact List.forall_mem_cons.2 ⟨followsNaN_meaning e, followsNaN_meanings others⟩

end

end Meaning

/-- The value of an expression is NaN exactly if the expression consists of negations over a leaf
that is NaN.  Evaluation does not end in a misuse unless the factorial of such an expression is a
part of the whole, and that factorial itself ends in one. -/
theorem evaluate_nan (context : Context) (e : Expr) :
    (e.evaluate context = .ok nan ↔ e.NegatedNaN) ∧
    (∀ cause, e.evaluate context = .error (.misuse cause) →
      cause = .roundedNaN ∧ e.HasFactorialOfNaN) ∧
    ∀ argument : Expr, argument.NegatedNaN →
      (call Builtin.fact.name [argument]).evaluate context = .error (.misuse .roundedNaN) := by
  have follows : e.FollowsNaN (meaning context e) := followsNaN_meaning e
  simp only [evaluate, evaluateChain_nil]
  refine ⟨⟨fun value => ?_, NegatedNaN.meaning_eq⟩, fun cause failed => ?_,
    fun argument isNaN => isNaN.meaning_factorial⟩
  · rw [value] at follows
    exact follows.1 rfl
  · rw [failed] at follows
    exact follows cause rfl

end Expr

end Reckoner
