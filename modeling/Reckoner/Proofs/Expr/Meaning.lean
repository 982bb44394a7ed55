import Reckoner.Expr.Meaning
import Reckoner.Proofs.Builtin

/-!
# Evaluation follows the meaning of an expression

Evaluation walks down the left operands of a chain and replays the collected links afterwards.  The
walk from a node with links behind it is the meaning of the node followed by those links, so that
unwinding a chain changes neither its value nor the failure that is reported first.

## Implementation notes

The induction is on the tree and general in the links: at a binary operation the left operand is
entered with one link more.  Nothing about the links is used but the order in which they are
followed.
-/

namespace Reckoner.Expr

section Equations

attribute [local simp] meaning meanings

variable {context : Context} {function : Builtin} {arguments : List Expr} {left right : Expr}

theorem meaning_operation (operator : Operator) :
    meaning context (.binary operator left right) = (do
      let x ← meaning context left
      let y ← meaning context right
      operator.apply context x y) := by
  simp

theorem meaning_call (count : arguments.length = function.arity) :
    meaning context (.call function.name arguments) = (do
      let values ← meanings context arguments
      let result ← function.apply context values
      realOr (.functionWithoutResult function) result) := by
  rw [meaning, Builtin.ofName?_name]
  exact if_pos count

theorem meaning_call_of_count_ne (count : arguments.length ≠ function.arity) :
    meaning context (.call function.name arguments) =
      .error (.failure (.argumentCount function.name function.arity arguments.length)) := by
  rw [meaning, Builtin.ofName?_name]
  exact if_neg count

theorem meaning_call_of_unknown {name : String} (unknown : Builtin.ofName? name = none) :
    meaning context (.call name arguments) = .error (.failure (.unknownFunction name)) := by
  simp [unknown]

theorem meanings_singleton {e : Expr} :
    meanings context [e] = (do return [← meaning context e]) := by
  rw [meanings, meanings]
  rfl

theorem meanings_pair {a b : Expr} : meanings context [a, b] = (do
    let x ← meaning context a
    let y ← meaning context b
    return [x, y]) := by
  rw [meanings, meanings_singleton]
  simp only [bind_assoc, pure_bind]

/-- Expressions that are changed without a change of meaning keep their values. -/
theorem meanings_map {context' : Context} {g : Expr → Expr} {exprs : List Expr}
    (h : ∀ e ∈ exprs, meaning context' (g e) = meaning context e) :
    meanings context' (exprs.map g) = meanings context exprs := by
  induction exprs with
  | nil => simp
  | cons e others ih =>
      obtain ⟨first, later⟩ := List.forall_mem_cons.1 h
      simp [first, ih later]

end Equations

variable (context : Context)

theorem follow_nil : follow [] = pure := rfl

theorem follow_cons (link : Link) (links : List Link) :
    follow (link :: links) = fun value => link value >>= follow links := rfl

/-- A link of a chain whose right operand is known to evaluate to its meaning. -/
theorem follow_operation {operator : Operator} {right : Expr}
    (h : evaluateChain context right [] = meaning context right) (links : List Link)
    (value : Binary64) :
    follow ((fun left => do operator.apply context left (← evaluateChain context right [])) ::
        links) value =
      (meaning context right >>= operator.apply context value) >>= follow links := by
  rw [follow_cons, h]

mutual

/-- A walk down the left operands is the meaning of the node, followed by the links behind it. -/
theorem evaluateChain_eq_bind (expr : Expr) (links : List Link) :
    evaluateChain context expr links = meaning context expr >>= follow links := by
  match expr with
  | .number value => rw [evaluateChain, meaning]; rfl
  | .constant _ value => rw [evaluateChain, meaning]; rfl
  | .negate operand =>
      rw [evaluateChain, meaning, evaluateChain_eq_bind operand [], follow_nil, bind_pure,
        bind_assoc]
      rfl
  | .binary operator left right =>
      have inner : evaluateChain context right [] = meaning context right := by
        rw [evaluateChain_eq_bind right [], follow_nil, bind_pure]
      calc evaluateChain context (.binary operator left right) links
        _ = meaning context left >>= fun value =>
              (meaning context right >>= operator.apply context value) >>= follow links := by
            rw [evaluateChain, evaluateChain_eq_bind left]
            exact bind_congr fun value => follow_operation context inner links value
        _ = meaning context (.binary operator left right) >>= follow links := by
            rw [meaning, bind_assoc]
  | .call name arguments =>
      rw [evaluateChain, meaning]
      cases Builtin.ofName? name with
      | none => rfl
      | some function =>
          by_cases count : arguments.length = function.arity
          · simp only [if_pos count, evaluateArguments_eq_meanings arguments, bind_assoc]
          · simp only [if_neg count]
            rfl

/-- Arguments are evaluated from left to right, each to its meaning. -/
theorem evaluateArguments_eq_meanings (exprs : List Expr) :
    evaluateArguments context exprs = meanings context exprs := by
  match exprs with
  | [] => rw [evaluateArguments, meanings]
  | expr :: others =>
      rw [evaluateArguments, meanings, evaluateChain_eq_bind expr [], follow_nil, bind_pure,
        evaluateArguments_eq_meanings others]

end

/-- A walk that nothing continues is the meaning of the node. -/
theorem evaluateChain_nil (expr : Expr) : evaluateChain context expr [] = meaning context expr := by
  rw [evaluateChain_eq_bind, follow_nil, bind_pure]

/-- Evaluation along chains has the outcome of plain recursion on the tree: the same value, or the
same failure first. -/
theorem evaluate_eq_meaning (expr : Expr) : expr.evaluate context = expr.meaning context :=
  evaluateChain_nil context expr

end Reckoner.Expr
