import Reckoner.Proofs.Builtin
import Reckoner.Proofs.Parsing.Scope

/-!
# How each rule succeeds

The rules of the parser, read as rules of inference about outcomes that are trees: if the parts of a
phrase are found one after the other, the phrase is found.

## Implementation notes

A parsed value carries a proof about the number of tokens it leaves, so that two of them with the
same tree and the same rest may differ in type.  `Yields` names tree and rest only, and what follows
a part is asked of every parsed value that has them.  For the same reason the equations for the
loops hide how a parsed value is put together behind a function that is known by its values and
rests.
-/

namespace Reckoner.Parsing

section Equations

variable (scope : Scope) {bound : Nat} {token : Token} {following : List Token}
  {operator : Operator}

/-- The loop of an expression is left where no additive operator follows. -/
theorem sum_eq_ok {left : Parsed Expr bound}
    (h : ∀ token following, left.rest = token :: following → additive? token.kind = none) :
    sum scope left = .ok left := by
  rw [sum]
  split
  · rfl
  · rename_i token following found
    rw [h token following found]

/-- The loop of an expression goes round behind an additive operator. -/
theorem sum_eq_bind {left : Parsed Expr bound} (found : left.rest = token :: following)
    (kind : additive? token.kind = some operator) :
    ∃ next : Parsed Expr following.length → Parsed Expr bound,
      (∀ right, (next right).value = .binary operator left.value right.value ∧
        (next right).rest = right.rest) ∧
      sum scope left = (do
        let right ← term scope following
        sum scope (next right)) := by
  have fewer : following.length < bound := by
    have := left.rest_lt
    rw [found, List.length_cons] at this
    omega
  refine ⟨fun right => ⟨.binary operator left.value right.value, right.rest,
    Nat.lt_trans right.rest_lt fewer⟩, fun right => ⟨rfl, rfl⟩, ?_⟩
  rw [sum]
  split
  · simp_all
  · rename_i token' following' found'
    cases found.symm.trans found'
    simp only [kind]

/-- The loop of a term is left where no multiplicative operator follows. -/
theorem product_eq_ok {left : Parsed Expr bound}
    (h : ∀ token following, left.rest = token :: following → multiplicative? token.kind = none) :
    product scope left = .ok left := by
  rw [product]
  split
  · rfl
  · rename_i token following found
    rw [h token following found]

/-- The loop of a term goes round behind a multiplicative operator. -/
theorem product_eq_bind {left : Parsed Expr bound} (found : left.rest = token :: following)
    (kind : multiplicative? token.kind = some operator) :
    ∃ next : Parsed Expr following.length → Parsed Expr bound,
      (∀ right, (next right).value = .binary operator left.value right.value ∧
        (next right).rest = right.rest) ∧
      product scope left = (do
        let right ← factor scope following
        product scope (next right)) := by
  have fewer : following.length < bound := by
    have := left.rest_lt
    rw [found, List.length_cons] at this
    omega
  refine ⟨fun right => ⟨.binary operator left.value right.value, right.rest,
    Nat.lt_trans right.rest_lt fewer⟩, fun right => ⟨rfl, rfl⟩, ?_⟩
  rw [product]
  split
  · simp_all
  · rename_i token' following' found'
    cases found.symm.trans found'
    simp only [kind]

/-- A list of arguments ends where no comma follows. -/
theorem furtherArguments_eq_ok {found : Parsed (List Expr) bound}
    (h : ∀ token following, found.rest = token :: following → token.kind ≠ .comma) :
    furtherArguments scope found =
      .ok ⟨found.value.reverse, found.rest, found.rest_lt⟩ := by
  rw [furtherArguments]
  split
  · rfl
  · rename_i token following behind
    rw [if_neg (h token following behind)]

/-- A list of arguments goes on behind a comma. -/
theorem furtherArguments_eq_bind {found : Parsed (List Expr) bound}
    (behind : found.rest = token :: following) (kind : token.kind = .comma) :
    ∃ next : Parsed Expr following.length → Parsed (List Expr) bound,
      (∀ further, (next further).value = further.value :: found.value ∧
        (next further).rest = further.rest) ∧
      furtherArguments scope found = (do
        let further ← expression scope following
        furtherArguments scope (next further)) := by
  have fewer : following.length < bound := by
    have := found.rest_lt
    rw [behind, List.length_cons] at this
    omega
  refine ⟨fun further => ⟨further.value :: found.value, further.rest,
    Nat.lt_trans further.rest_lt fewer⟩, fun further => ⟨rfl, rfl⟩, ?_⟩
  rw [furtherArguments]
  split
  · simp_all
  · rename_i token' following' behind'
    cases behind.symm.trans behind'
    rw [if_pos kind]

/-- The power that starts with the base parsed so far. -/
def raise (scope : Scope) {bound : Nat} (base : Parsed Expr bound) : Outcome (Parsed Expr bound) :=
  match rest : base.rest with
  | [] => .ok base
  | token :: following =>
      have shorter : following.length < bound := by
        have := base.rest_lt; rw [rest, List.length_cons] at this; omega
      if token.kind = .caret then do
        let deeper ← scope.deeper following
        let exponent ← factor deeper following
        return ⟨.binary .pow base.value exponent.value, exponent.rest,
          Nat.lt_trans exponent.rest_lt shorter⟩
      else .ok base

theorem power_eq_bind (tokens : List Token) :
    power scope tokens = (do
      let base ← operand scope tokens
      raise scope base) := by
  rw [power]
  rfl

/-- A power is its base where no caret follows. -/
theorem raise_eq_ok {base : Parsed Expr bound}
    (h : ∀ token following, base.rest = token :: following → token.kind ≠ .caret) :
    raise scope base = .ok base := by
  unfold raise
  split
  · rfl
  · rename_i token following found
    rw [if_neg (h token following found)]

/-- A base is raised to the signed factor behind a caret. -/
theorem raise_eq_bind {base : Parsed Expr bound} (found : base.rest = token :: following)
    (kind : token.kind = .caret) :
    ∃ next : Parsed Expr following.length → Parsed Expr bound,
      (∀ exponent, (next exponent).value = .binary .pow base.value exponent.value ∧
        (next exponent).rest = exponent.rest) ∧
      raise scope base = (do
        let deeper ← scope.deeper following
        let exponent ← factor deeper following
        return next exponent) := by
  have shorter : following.length < bound := by
    have := base.rest_lt
    rw [found, List.length_cons] at this
    omega
  refine ⟨fun exponent => ⟨.binary .pow base.value exponent.value, exponent.rest,
    Nat.lt_trans exponent.rest_lt shorter⟩, fun exponent => ⟨rfl, rfl⟩, ?_⟩
  unfold raise
  split
  · simp_all
  · rename_i token' following' found'
    cases found.symm.trans found'
    rw [if_pos kind]

/-- What is in parentheses is closed by the token behind it or not at all. -/
theorem close_eq_ite {α : Type} {inner : Parsed α bound} (opening : Int)
    (found : inner.rest = token :: following) :
    ∃ fewer, close opening inner =
      if token.kind = .rightParen then .ok ⟨inner.value, following, fewer⟩
      else fail (.expectedClosing token.text token.position) := by
  have fewer : following.length < bound := by
    have := inner.rest_lt
    rw [found, List.length_cons] at this
    omega
  refine ⟨fewer, ?_⟩
  unfold close
  split
  · simp_all
  · rename_i token' following' found'
    cases found.symm.trans found'
    rfl

end Equations

/-- The outcome is the given value with the given tokens behind it. -/
def Yields {α : Type} {bound : Nat} (outcome : Outcome (Parsed α bound)) (value : α)
    (rest : List Token) : Prop :=
  Ensures (fun parsed => parsed.value = value ∧ parsed.rest = rest) (fun _ => False) outcome

namespace Yields

theorem bind {α β : Type} {b c : Nat} {outcome : Outcome (Parsed α b)} {value : α} {result : β}
    {rest after : List Token} {f : Parsed α b → Outcome (Parsed β c)}
    (h : Yields outcome value rest)
    (next : ∀ parsed : Parsed α b, parsed.value = value → parsed.rest = rest →
      Yields (f parsed) result after) : Yields (outcome >>= f) result after :=
  Ensures.and_then h fun parsed same => next parsed same.1 same.2

/-- An outcome is one value only. -/
theorem unique {α : Type} {bound : Nat} {outcome : Outcome (Parsed α bound)} {value other : α}
    {rest after : List Token} (h : Yields outcome value rest) (h' : Yields outcome other after) :
    value = other := by
  cases outcome with
  | ok parsed => exact h.1.symm.trans h'.1
  | error fault => exact h.elim

variable {scope : Scope} {bound n : Nat} {token right : Token}
  {tokens following between rest : List Token} {l r e : Expr} {es : List Expr}
  {operator : Operator} {function : Builtin}

section Sum

variable {left : Parsed Expr bound}

theorem sum_stop
    (h : ∀ token following, left.rest = token :: following → additive? token.kind = none) :
    Yields (sum scope left) left.value left.rest := by
  rw [sum_eq_ok scope h]
  exact ⟨rfl, rfl⟩

theorem sum_step (found : left.rest = token :: following)
    (kind : additive? token.kind = some operator) (h : Yields (term scope following) r between)
    (next : ∀ joined : Parsed Expr bound, joined.value = .binary operator left.value r →
      joined.rest = between → Yields (sum scope joined) e rest) :
    Yields (sum scope left) e rest := by
  obtain ⟨join, joined, step⟩ := sum_eq_bind scope found kind
  rw [step]
  apply h.bind
  intro right same behind
  exact next _ (by rw [(joined right).1, same]) ((joined right).2.trans behind)

theorem product_stop
    (h : ∀ token following, left.rest = token :: following → multiplicative? token.kind = none) :
    Yields (product scope left) left.value left.rest := by
  rw [product_eq_ok scope h]
  exact ⟨rfl, rfl⟩

theorem product_step (found : left.rest = token :: following)
    (kind : multiplicative? token.kind = some operator)
    (h : Yields (factor scope following) r between)
    (next : ∀ joined : Parsed Expr bound, joined.value = .binary operator left.value r →
      joined.rest = between → Yields (product scope joined) e rest) :
    Yields (product scope left) e rest := by
  obtain ⟨join, joined, step⟩ := product_eq_bind scope found kind
  rw [step]
  apply h.bind
  intro right same behind
  exact next _ (by rw [(joined right).1, same]) ((joined right).2.trans behind)

end Sum

theorem factor_negate (kind : token.kind = .minus) (room : scope.Fits (n + 1))
    (h : ∀ deeper : Scope, deeper.Fits n → Yields (factor deeper following) e rest) :
    Yields (factor scope (token :: following)) (.negate e) rest := by
  rw [factor, if_pos kind]
  apply (room.deeper following).and_then
  intro deeper fits
  exact (h deeper fits).bind fun _ same behind => ⟨by rw [same], behind⟩

theorem factor_power (kind : token.kind ≠ .minus)
    (h : Yields (power scope (token :: following)) e rest) :
    Yields (factor scope (token :: following)) e rest := by
  rwa [factor, if_neg kind]

theorem power_operand
    (closed : ∀ token following, rest = token :: following → token.kind ≠ .caret)
    (h : Yields (operand scope tokens) e rest) : Yields (power scope tokens) e rest := by
  rw [power_eq_bind]
  apply h.bind
  intro base same behind
  rw [raise_eq_ok scope (behind ▸ closed)]
  exact ⟨same, behind⟩

theorem power_raise (kind : token.kind = .caret) (room : scope.Fits (n + 1))
    (h : Yields (operand scope tokens) l (token :: following))
    (exponent : ∀ deeper : Scope, deeper.Fits n → Yields (factor deeper following) r rest) :
    Yields (power scope tokens) (.binary .pow l r) rest := by
  rw [power_eq_bind]
  apply h.bind
  intro base same behind
  obtain ⟨next, raised, eq⟩ := raise_eq_bind scope behind kind
  rw [eq]
  apply (room.deeper following).and_then
  intro deeper fits
  apply (exponent deeper fits).bind
  intro found equal after
  exact ⟨by rw [(raised found).1, same, equal], (raised found).2.trans after⟩

theorem operand_number {x : Binary64} (kind : token.kind = .number)
    (read : Decimal.readNumber? token.text = some x) :
    Yields (operand scope (token :: rest)) (.number x) rest := by
  rw [operand]
  simp only [kind]
  split
  · rename_i value found
    cases read.symm.trans found
    exact ⟨rfl, rfl⟩
  · simp_all

theorem operand_constant {constant : Constant} (kind : token.kind = .name)
    (spelled : token.text = constant.name) :
    Yields (operand scope (token :: rest)) (.constant constant.name constant.value) rest := by
  rw [operand]
  simp only [kind, spelled, Builtin.ofName?_constant, Constant.ofName?_name]
  exact ⟨rfl, rfl⟩

theorem operand_call (kind : token.kind = .name) (spelled : token.text = function.name)
    (h : Yields (call scope token.position function following) e rest) :
    Yields (operand scope (token :: following)) e rest := by
  rw [operand]
  simp only [kind, spelled, Builtin.ofName?_name]
  exact h.bind fun _ same behind => ⟨same, behind⟩

theorem close {α : Type} {opening : Int} {inner : Parsed α bound}
    (found : inner.rest = right :: rest) (kind : right.kind = .rightParen) :
    Yields (close opening inner) inner.value rest := by
  obtain ⟨fewer, eq⟩ := close_eq_ite opening found
  rw [eq, if_pos kind]
  exact ⟨rfl, rfl⟩

theorem operand_group (kind : token.kind = .leftParen) (room : scope.Fits (n + 1))
    (h : ∀ inner : Scope, inner.Fits n → Yields (expression inner following) e (right :: rest))
    (closing : right.kind = .rightParen) : Yields (operand scope (token :: following)) e rest := by
  rw [operand]
  simp only [kind]
  apply (room.inside following).and_then
  intro inner fits
  apply (h inner fits).bind
  intro parsed same behind
  exact (Yields.close behind closing).bind fun _ equal after => ⟨equal.trans same, after⟩

theorem call {position : Int} (kind : token.kind = .leftParen) (room : scope.Fits (n + 1))
    (h : ∀ inner : Scope, inner.Fits n → Yields (arguments inner following) es (right :: rest))
    (closing : right.kind = .rightParen) (count : es.length = function.arity) :
    Yields (call scope position function (token :: following)) (.call function.name es) rest := by
  rw [Parsing.call, if_pos kind]
  apply (room.inside following).and_then
  intro inner fits
  apply (h inner fits).bind
  intro parsed same behind
  apply (Yields.close behind closing).bind
  intro listed equal after
  rw [if_pos (by rw [equal, same, count])]
  exact ⟨by rw [equal, same], after⟩

theorem arguments (kind : token.kind ≠ .rightParen)
    (h : Yields (expression scope (token :: following)) e between)
    (next : ∀ {bound : Nat} (first : Parsed (List Expr) bound), first.value = [e] →
      first.rest = between → Yields (furtherArguments scope first) es rest) :
    Yields (arguments scope (token :: following)) es rest := by
  rw [Parsing.arguments, if_neg (by simpa using kind)]
  exact h.bind fun _ same behind => next _ (by rw [same]) behind

section Arguments

variable {found : Parsed (List Expr) bound}

theorem furtherArguments_stop (behind : found.rest = token :: following)
    (kind : token.kind ≠ .comma) :
    Yields (furtherArguments scope found) found.value.reverse found.rest := by
  rw [furtherArguments_eq_ok]
  · exact ⟨rfl, rfl⟩
  · intro token' following' behind'
    cases behind.symm.trans behind'
    exact kind

theorem furtherArguments_step (behind : found.rest = token :: following)
    (kind : token.kind = .comma) (h : Yields (expression scope following) e between)
    (next : ∀ further : Parsed (List Expr) bound, further.value = e :: found.value →
      further.rest = between → Yields (furtherArguments scope further) es rest) :
    Yields (furtherArguments scope found) es rest := by
  obtain ⟨extend, extended, step⟩ := furtherArguments_eq_bind scope behind kind
  rw [step]
  apply h.bind
  intro further same after
  exact next _ (by rw [(extended further).1, same]) ((extended further).2.trans after)

end Arguments

end Yields

end Reckoner.Parsing
