import Mathlib.Data.List.Forall2
import Reckoner.Proofs.Parsing.Grammar
import Reckoner.Proofs.Parsing.Steps

/-!
# Two runs in step

The parser is run on two lists of tokens that differ in the positions of the tokens only, and under
two limits of nesting.  The runs take the same decisions up to the place where the nesting exceeds
the lower limit, so that they end in the same tree or in the same error at corresponding positions.

## Implementation notes

Positions are compared by a relation and not by a function, because the end of the input and the
tokens are all that a run takes positions from: whatever holds between these holds between the
positions in the errors.  The theorems follow the rules, along the measure of the first run.
-/

namespace Reckoner

namespace SyntaxError

/-- The error at another position, if it has one. -/
def placedAt (position : Int) : SyntaxError → SyntaxError
  | .emptyExpression => .emptyExpression
  | .endOfInput expected _ => .endOfInput expected position
  | .endInParentheses expected _ => .endInParentheses expected position
  | .unclosed _ => .unclosed position
  | .strayClosing _ => .strayClosing position
  | .unexpectedToken expected found _ => .unexpectedToken expected found position
  | .expectedClosing found _ => .expectedClosing found position
  | .trailingInput found _ => .trailingInput found position
  | .unknownName name _ => .unknownName name position
  | .argumentCount name arity given _ => .argumentCount name arity given position
  | .tooDeeplyNested limit _ => .tooDeeplyNested limit position

variable {cause : SyntaxError} {position : Int}

@[simp] theorem kind_placedAt (cause : SyntaxError) (position : Int) :
    (cause.placedAt position).kind = cause.kind := by
  cases cause <;> rfl

theorem position?_placedAt {other : Int} (h : cause.position? = some position) :
    (cause.placedAt other).position? = some other := by
  cases cause with
  | emptyExpression => cases h
  | _ => rfl

theorem placedAt_self (h : cause.position? = some position) : cause.placedAt position = cause := by
  cases cause <;> cases h <;> rfl

end SyntaxError

namespace Parsing

/-- In what two runs may differ: in positions, which correspond as given, and in the limit, which
is not greater in the first run. -/
structure Pairing where
  /-- Which positions correspond. -/
  places : Int → Int → Prop
  /-- The limit of the first run. -/
  limit : Int
  /-- The limit of the second run. -/
  limit' : Int
  /-- The first limit does not exceed the second. -/
  limit_le : limit ≤ limit'

namespace Pairing

variable (pairing : Pairing)

/-- Tokens with the same kind and the same text at corresponding positions. -/
structure SameToken (t t' : Token) : Prop where
  kind : t.kind = t'.kind
  text : t.text = t'.text
  position : pairing.places t.position t'.position

/-- Lists of such tokens. -/
abbrev SameTokens : List Token → List Token → Prop := List.Forall₂ pairing.SameToken

/-- Scopes that are equally deep under the two limits. -/
structure SameScope (scope scope' : Scope) : Prop where
  limit : scope.limit = pairing.limit
  limit' : scope'.limit = pairing.limit'
  finish : pairing.places scope.finish scope'.finish
  depth : scope.depth = scope'.depth
  parentheses : scope.parentheses = scope'.parentheses

/-- The same value in front of the same tokens. -/
structure SameParsed {α : Type} {b b' : Nat} (parsed : Parsed α b) (parsed' : Parsed α b') :
    Prop where
  value : parsed.value = parsed'.value
  rest : pairing.SameTokens parsed.rest parsed'.rest

/-- The same error at corresponding positions, or the same misuse. -/
inductive SameFault : Fault SyntaxError → Fault SyntaxError → Prop
  | placed {cause position position'} : cause.position? = some position →
      pairing.places position position' →
      SameFault (.failure cause) (.failure (cause.placedAt position'))
  | unplaced {cause} : cause.position? = none → SameFault (.failure cause) (.failure cause)
  | misuse (cause) : SameFault (.misuse cause) (.misuse cause)

/-- The outcomes of two runs in step: values that correspond, or the same fault, or nesting that is
too deep for the lower limit. -/
inductive Lockstep {α β : Type} (same : α → β → Prop) : Outcome α → Outcome β → Prop
  | ok {a b} : same a b → Lockstep same (.ok a) (.ok b)
  | error {fault fault'} : pairing.SameFault fault fault' →
      Lockstep same (.error fault) (.error fault')
  | curbed {position y} : pairing.limit < pairing.limit' →
      Lockstep same (.error (.failure (.tooDeeplyNested pairing.limit position))) y

variable {pairing} {scope scope' : Scope} {tokens tokens' : List Token} {b b' : Nat}

/-- Runs that are in step go on in step. -/
theorem Lockstep.bind {α β γ δ : Type} {same : α → β → Prop} {same' : γ → δ → Prop}
    {x : Outcome α} {y : Outcome β} {f : α → Outcome γ} {g : β → Outcome δ}
    (h : pairing.Lockstep same x y)
    (next : ∀ a b, same a b → pairing.Lockstep same' (f a) (g b)) :
    pairing.Lockstep same' (x >>= f) (y >>= g) := by
  cases h with
  | ok found => exact next _ _ found
  | error fault => exact .error fault
  | curbed lower => exact .curbed lower

/-- Under one limit, runs in step end in the same value or in the same fault. -/
theorem Lockstep.agree {α : Type} {x y : Outcome α} (h : pairing.Lockstep Eq x y)
    (equal : pairing.limit = pairing.limit') :
    (∃ a, x = .ok a ∧ y = .ok a) ∨
      ∃ fault fault', x = .error fault ∧ y = .error fault' ∧ pairing.SameFault fault fault' := by
  cases h with
  | ok same => exact .inl ⟨_, rfl, congrArg Except.ok same.symm⟩
  | error same => exact .inr ⟨_, _, rfl, rfl, same⟩
  | curbed lower => exact absurd equal (Int.ne_of_lt lower)

/-- The next tokens are at corresponding positions. -/
theorem SameScope.next (same : pairing.SameScope scope scope')
    (ts : pairing.SameTokens tokens tokens') :
    pairing.places (scope.next tokens) (scope'.next tokens') := by
  cases ts with
  | nil => exact same.finish
  | cons head _ => exact head.position

/-- The nesting exceeds both limits, or the lower one only, or neither. -/
theorem lockstep_deeper (same : pairing.SameScope scope scope')
    (ts : pairing.SameTokens tokens tokens') :
    pairing.Lockstep pairing.SameScope (scope.deeper tokens) (scope'.deeper tokens') := by
  have le := pairing.limit_le
  unfold Scope.deeper
  rw [same.limit, same.limit', same.depth]
  by_cases exceeds : pairing.limit < scope'.depth + 1
  · rw [if_pos exceeds]
    by_cases equal : pairing.limit = pairing.limit'
    · rw [if_pos (equal ▸ exceeds), ← equal]
      exact .error (.placed rfl (same.next ts))
    · exact .curbed (by omega)
  · rw [if_neg exceeds, if_neg (by omega)]
    exact .ok ⟨rfl, rfl, same.finish, rfl, same.parentheses⟩

theorem lockstep_inside (same : pairing.SameScope scope scope')
    (ts : pairing.SameTokens tokens tokens') :
    pairing.Lockstep pairing.SameScope (scope.inside tokens) (scope'.inside tokens') := by
  apply (lockstep_deeper same ts).bind
  intro inner inner' same
  exact .ok ⟨same.limit, same.limit', same.finish, same.depth, congrArg (· + 1) same.parentheses⟩

/-- The same token is unexpected in both runs. -/
theorem sameFault_unexpected (same : pairing.SameScope scope scope')
    (ts : pairing.SameTokens tokens tokens') (expected : Expectation) :
    pairing.SameFault (.failure (scope.unexpected expected tokens))
      (.failure (scope'.unexpected expected tokens')) := by
  unfold Scope.unexpected
  rw [same.parentheses]
  cases ts with
  | nil =>
      dsimp only
      split
      · exact .placed rfl same.finish
      · exact .placed rfl same.finish
  | cons head _ =>
      dsimp only
      rw [← head.kind, ← head.text]
      split
      · exact .placed rfl head.position
      · exact .placed rfl head.position

/-- What is opened at corresponding positions is closed by the same token or not at all. -/
theorem lockstep_close {α : Type} {opening opening' : Int} {inner : Parsed α b}
    {inner' : Parsed α b'} (places : pairing.places opening opening')
    (found : pairing.SameParsed inner inner') :
    pairing.Lockstep pairing.SameParsed (close opening inner) (close opening' inner') := by
  obtain ⟨value, rest, fewer⟩ := inner
  obtain ⟨value', rest', fewer'⟩ := inner'
  obtain ⟨same, ts⟩ := found
  cases ts with
  | nil => exact .error (.placed rfl places)
  | @cons token token' following following' head tail =>
      simp only [close]
      rw [← head.kind, ← head.text]
      split
      · exact .ok ⟨same, tail⟩
      · exact .error (.placed rfl head.position)

/-- What is found in step may be put into larger values in front of the same tokens. -/
theorem Lockstep.map {α β : Type} {c c' : Nat} {x : Outcome (Parsed α b)}
    {y : Outcome (Parsed α b')} {f : Parsed α b → Parsed β c} {g : Parsed α b' → Parsed β c'}
    (h : pairing.Lockstep pairing.SameParsed x y)
    (next : ∀ parsed parsed', pairing.SameParsed parsed parsed' →
      pairing.SameParsed (f parsed) (g parsed')) :
    pairing.Lockstep pairing.SameParsed (x >>= fun parsed => return f parsed)
      (y >>= fun parsed => return g parsed) := by
  apply h.bind
  intro parsed parsed' found
  exact .ok (next parsed parsed' found)

/-- Values put together of corresponding values, in front of what the later of them leave. -/
theorem SameParsed.join {α β γ : Type} {c c' d d' : Nat} {left : Parsed α b} {left' : Parsed α b'}
    {right : Parsed β c} {right' : Parsed β c'} {both : Parsed γ d} {both' : Parsed γ d'}
    (f : α → β → γ) (found : pairing.SameParsed left left')
    (next : pairing.SameParsed right right')
    (joined : both.value = f left.value right.value ∧ both.rest = right.rest)
    (joined' : both'.value = f left'.value right'.value ∧ both'.rest = right'.rest) :
    pairing.SameParsed both both' := by
  constructor
  · rw [joined.1, joined'.1, found.value, next.value]
  · rw [joined.2, joined'.2]
    exact next.rest

/-- Both runs are at the end of the input, or at tokens that correspond. -/
theorem SameParsed.nil_or_cons {α : Type} {parsed : Parsed α b} {parsed' : Parsed α b'}
    (found : pairing.SameParsed parsed parsed') :
    (parsed.rest = [] ∧ parsed'.rest = []) ∨
      ∃ token following token' following', parsed.rest = token :: following ∧
        parsed'.rest = token' :: following' ∧ pairing.SameToken token token' ∧
        pairing.SameTokens following following' := by
  obtain ⟨value, rest, fewer⟩ := parsed
  obtain ⟨value', rest', fewer'⟩ := parsed'
  obtain ⟨same, ts⟩ := found
  cases ts with
  | nil => exact .inl ⟨rfl, rfl⟩
  | cons head tail => exact .inr ⟨_, _, _, _, rfl, rfl, head, tail⟩

mutual

theorem lockstep_expression {scope scope' : Scope} {tokens tokens' : List Token}
    (same : pairing.SameScope scope scope') (ts : pairing.SameTokens tokens tokens') :
    pairing.Lockstep pairing.SameParsed (expression scope tokens) (expression scope' tokens') := by
  rw [expression, expression]
  apply (lockstep_term same ts).bind
  intro first first' found
  have := first.rest_lt
  exact lockstep_sum same found
termination_by (tokens.length, 5)

theorem lockstep_sum {scope scope' : Scope} (same : pairing.SameScope scope scope') {b b' : Nat}
    {left : Parsed Expr b} {left' : Parsed Expr b'} (found : pairing.SameParsed left left') :
    pairing.Lockstep pairing.SameParsed (sum scope left) (sum scope' left') := by
  rcases found.nil_or_cons with
    ⟨none, none'⟩ | ⟨token, following, token', following', behind, behind', head, tail⟩
  · rw [sum_eq_ok scope (by simp [none]), sum_eq_ok scope' (by simp [none'])]
    exact .ok found
  · cases kind : additive? token.kind with
    | none =>
        rw [sum_eq_ok scope (by simp [behind, kind]),
          sum_eq_ok scope' (by simp [behind', ← head.kind, kind])]
        exact .ok found
    | some operator =>
        obtain ⟨join, joined, step⟩ := sum_eq_bind scope behind kind
        obtain ⟨join', joined', step'⟩ := sum_eq_bind scope' behind' (head.kind ▸ kind)
        rw [step, step']
        have fewer : following.length < left.rest.length := by simp [behind]
        apply (lockstep_term same tail).bind
        intro right right' equal
        have shorter : (join right).rest.length < left.rest.length := by
          rw [(joined right).2]
          exact Nat.lt_trans right.rest_lt fewer
        apply lockstep_sum same
        exact found.join (.binary operator) equal (joined right) (joined' right')
termination_by (left.rest.length, 0)

theorem lockstep_term {scope scope' : Scope} {tokens tokens' : List Token}
    (same : pairing.SameScope scope scope') (ts : pairing.SameTokens tokens tokens') :
    pairing.Lockstep pairing.SameParsed (term scope tokens) (term scope' tokens') := by
  rw [term, term]
  apply (lockstep_factor same ts).bind
  intro first first' found
  have := first.rest_lt
  exact lockstep_product same found
termination_by (tokens.length, 4)

theorem lockstep_product {scope scope' : Scope} (same : pairing.SameScope scope scope')
    {b b' : Nat} {left : Parsed Expr b} {left' : Parsed Expr b'}
    (found : pairing.SameParsed left left') :
    pairing.Lockstep pairing.SameParsed (product scope left) (product scope' left') := by
  rcases found.nil_or_cons with
    ⟨none, none'⟩ | ⟨token, following, token', following', behind, behind', head, tail⟩
  · rw [product_eq_ok scope (by simp [none]), product_eq_ok scope' (by simp [none'])]
    exact .ok found
  · cases kind : multiplicative? token.kind with
    | none =>
        rw [product_eq_ok scope (by simp [behind, kind]),
          product_eq_ok scope' (by simp [behind', ← head.kind, kind])]
        exact .ok found
    | some operator =>
        obtain ⟨join, joined, step⟩ := product_eq_bind scope behind kind
        obtain ⟨join', joined', step'⟩ := product_eq_bind scope' behind' (head.kind ▸ kind)
        rw [step, step']
        have fewer : following.length < left.rest.length := by simp [behind]
        apply (lockstep_factor same tail).bind
        intro right right' equal
        have shorter : (join right).rest.length < left.rest.length := by
          rw [(joined right).2]
          exact Nat.lt_trans right.rest_lt fewer
        apply lockstep_product same
        exact found.join (.binary operator) equal (joined right) (joined' right')
termination_by (left.rest.length, 0)

theorem lockstep_factor {scope scope' : Scope} {tokens tokens' : List Token}
    (same : pairing.SameScope scope scope') (ts : pairing.SameTokens tokens tokens') :
    pairing.Lockstep pairing.SameParsed (factor scope tokens) (factor scope' tokens') := by
  match ts with
  | .nil =>
      rw [factor, factor]
      exact lockstep_power same .nil
  | .cons head tail =>
      rw [factor, factor, ← head.kind]
      split
      · -- the sign is passed before its nesting is counted, so that the error is behind it
        apply (lockstep_deeper same tail).bind
        intro deeper deeper' same
        apply (lockstep_factor same tail).map
        intro operand operand' found
        exact ⟨congrArg Expr.negate found.value, found.rest⟩
      · exact lockstep_power same (.cons head tail)
termination_by (tokens.length, 3)

theorem lockstep_power {scope scope' : Scope} {tokens tokens' : List Token}
    (same : pairing.SameScope scope scope') (ts : pairing.SameTokens tokens tokens') :
    pairing.Lockstep pairing.SameParsed (power scope tokens) (power scope' tokens') := by
  rw [power_eq_bind, power_eq_bind]
  apply (lockstep_operand same ts).bind
  intro base base' found
  have := base.rest_lt
  exact lockstep_raise same found
termination_by (tokens.length, 2)

theorem lockstep_raise {scope scope' : Scope} (same : pairing.SameScope scope scope') {b b' : Nat}
    {base : Parsed Expr b} {base' : Parsed Expr b'} (found : pairing.SameParsed base base') :
    pairing.Lockstep pairing.SameParsed (raise scope base) (raise scope' base') := by
  rcases found.nil_or_cons with
    ⟨none, none'⟩ | ⟨token, following, token', following', behind, behind', head, tail⟩
  · rw [raise_eq_ok scope (by simp [none]), raise_eq_ok scope' (by simp [none'])]
    exact .ok found
  · by_cases kind : token.kind = .caret
    · obtain ⟨next, raised, step⟩ := raise_eq_bind scope behind kind
      obtain ⟨next', raised', step'⟩ := raise_eq_bind scope' behind' (head.kind ▸ kind)
      rw [step, step']
      have fewer : following.length < base.rest.length := by simp [behind]
      apply (lockstep_deeper same tail).bind
      intro deeper deeper' same
      apply (lockstep_factor same tail).map
      intro exponent exponent' equal
      exact found.join (.binary .pow) equal (raised exponent) (raised' exponent')
    · rw [raise_eq_ok scope (by simp [behind, kind]),
        raise_eq_ok scope' (by simp [behind', ← head.kind, kind])]
      exact .ok found
termination_by (base.rest.length, 0)

theorem lockstep_operand {scope scope' : Scope} {tokens tokens' : List Token}
    (same : pairing.SameScope scope scope') (ts : pairing.SameTokens tokens tokens') :
    pairing.Lockstep pairing.SameParsed (operand scope tokens) (operand scope' tokens') := by
  match ts with
  | .nil =>
      rw [operand, operand]
      exact .error (sameFault_unexpected same .nil .operand)
  | .cons head tail =>
      rw [operand, operand, ← head.kind, ← head.text]
      split
      · split
        · exact .ok ⟨rfl, tail⟩
        · exact .error (.misuse _)
      · apply (lockstep_inside same tail).bind
        intro inner inner' same
        apply (lockstep_expression same tail).bind
        intro parsed parsed' found
        apply (lockstep_close head.position found).map
        intro grouped grouped' found
        exact ⟨found.value, found.rest⟩
      · split
        · apply (lockstep_call same head.position _ tail).map
          intro called called' found
          exact ⟨found.value, found.rest⟩
        · split
          · exact .ok ⟨rfl, tail⟩
          · exact .error (.placed rfl head.position)
      · exact .error (sameFault_unexpected same (.cons head tail) .operand)
termination_by (tokens.length, 1)

theorem lockstep_call {scope scope' : Scope} {tokens tokens' : List Token}
    (same : pairing.SameScope scope scope') {position position' : Int}
    (places : pairing.places position position') (function : Builtin)
    (ts : pairing.SameTokens tokens tokens') :
    pairing.Lockstep pairing.SameParsed (call scope position function tokens)
      (call scope' position' function tokens') := by
  match ts with
  | .nil =>
      rw [call, call]
      exact .error (sameFault_unexpected same .nil _)
  | .cons head tail =>
      rw [call, call, ← head.kind]
      split
      · apply (lockstep_inside same tail).bind
        intro inner inner' same
        apply (lockstep_arguments same tail).bind
        intro parsed parsed' found
        apply (lockstep_close head.position found).bind
        intro listed listed' found
        rw [← found.value]
        split
        · exact .ok ⟨rfl, found.rest⟩
        · exact .error (.placed rfl places)
      · exact .error (sameFault_unexpected same (.cons head tail) _)
termination_by (tokens.length, 0)

theorem lockstep_arguments {scope scope' : Scope} {tokens tokens' : List Token}
    (same : pairing.SameScope scope scope') (ts : pairing.SameTokens tokens tokens') :
    pairing.Lockstep pairing.SameParsed (arguments scope tokens) (arguments scope' tokens') := by
  have next : tokens'.head?.map (·.kind) = tokens.head?.map (·.kind) := by
    cases ts with
    | nil => rfl
    | cons head _ => simp [head.kind]
  rw [arguments, arguments, next]
  split
  · exact .ok ⟨rfl, ts⟩
  · apply (lockstep_expression same ts).bind
    intro first first' found
    have := first.rest_lt
    exact lockstep_furtherArguments same ⟨congrArg (fun e => [e]) found.value, found.rest⟩
termination_by (tokens.length, 6)

theorem lockstep_furtherArguments {scope scope' : Scope} (same : pairing.SameScope scope scope')
    {b b' : Nat} {found : Parsed (List Expr) b} {found' : Parsed (List Expr) b'}
    (equal : pairing.SameParsed found found') :
    pairing.Lockstep pairing.SameParsed (furtherArguments scope found)
      (furtherArguments scope' found') := by
  have reversed : found.value.reverse = found'.value.reverse := congrArg List.reverse equal.value
  rcases equal.nil_or_cons with
    ⟨none, none'⟩ | ⟨token, following, token', following', behind, behind', head, tail⟩
  · rw [furtherArguments_eq_ok scope (by simp [none]),
      furtherArguments_eq_ok scope' (by simp [none'])]
    exact .ok ⟨reversed, equal.rest⟩
  · by_cases kind : token.kind = .comma
    · obtain ⟨extend, extended, step⟩ := furtherArguments_eq_bind scope behind kind
      obtain ⟨extend', extended', step'⟩ :=
        furtherArguments_eq_bind scope' behind' (head.kind ▸ kind)
      rw [step, step']
      have fewer : following.length < found.rest.length := by simp [behind]
      apply (lockstep_expression same tail).bind
      intro next next' same'
      have shorter : (extend next).rest.length < found.rest.length := by
        rw [(extended next).2]
        exact Nat.lt_trans next.rest_lt fewer
      apply lockstep_furtherArguments same
      exact equal.join (fun es e => e :: es) same' (extended next) (extended' next')
    · rw [furtherArguments_eq_ok scope (by simp [behind, kind]),
        furtherArguments_eq_ok scope' (by simp [behind', ← head.kind, kind])]
      exact .ok ⟨reversed, equal.rest⟩
termination_by (found.rest.length, 0)

end

theorem SameTokens.map_kind (ts : pairing.SameTokens tokens tokens') :
    tokens.map (·.kind) = tokens'.map (·.kind) := by
  induction ts with
  | nil => rfl
  | cons head _ ih => rw [List.map_cons, List.map_cons, head.kind, ih]

/-- What corresponds to a list with a token in it is a list with the corresponding token in it. -/
theorem SameTokens.exists_split {body others : List Token} {last : Token}
    (ts : pairing.SameTokens (body ++ last :: others) tokens') :
    ∃ body' last' others', tokens' = body' ++ last' :: others' ∧ pairing.SameTokens body body' ∧
      pairing.SameToken last last' := by
  induction body generalizing tokens' with
  | nil =>
      cases ts with
      | cons head _ => exact ⟨[], _, _, rfl, .nil, head⟩
  | cons t body ih =>
      cases ts with
      | cons head tail =>
          obtain ⟨body', last', others', rfl, front, same⟩ := ih tail
          exact ⟨_ :: body', last', others', rfl, .cons head front, same⟩

/-- The rules are run in step on the tokens in front of the end. -/
theorem lockstep_ofTokens_append {body body' : List Token} {last last' : Token}
    (front : pairing.SameTokens body body') (same : pairing.SameToken last last')
    (ended : last.kind = .finish) (inner : ∀ t ∈ body, t.kind ≠ .finish)
    (ended' : last'.kind = .finish) (inner' : ∀ t ∈ body', t.kind ≠ .finish) :
    pairing.Lockstep Eq (Expr.ofTokens pairing.limit (body ++ [last]))
      (Expr.ofTokens pairing.limit' (body' ++ [last'])) := by
  cases front with
  | nil =>
      rw [List.nil_append, List.nil_append, Expr.ofTokens_end ended, Expr.ofTokens_end ended']
      exact .error (.unplaced rfl)
  | cons head tail =>
      rw [Expr.ofTokens_append ended inner (List.cons_ne_nil _ _),
        Expr.ofTokens_append ended' inner' (List.cons_ne_nil _ _)]
      have start : pairing.SameScope ⟨pairing.limit, last.position, 0, 0⟩
          ⟨pairing.limit', last'.position, 0, 0⟩ := ⟨rfl, rfl, same.position, rfl, rfl⟩
      apply (lockstep_expression start (.cons head tail)).bind
      intro parsed parsed' found
      rcases found.nil_or_cons with
        ⟨none, none'⟩ | ⟨token, following, token', following', behind, behind', next, _⟩
      · rw [none, none']
        exact .ok found.value
      · rw [behind, behind']
        dsimp only
        rw [← next.kind, ← next.text]
        split
        · exact .error (.placed rfl next.position)
        · exact .error (.placed rfl next.position)

/-- Lists of tokens that differ in positions only are parsed in step. -/
theorem lockstep_ofTokens (ts : pairing.SameTokens tokens tokens') :
    pairing.Lockstep Eq (Expr.ofTokens pairing.limit tokens)
      (Expr.ofTokens pairing.limit' tokens') := by
  have kinds := ts.map_kind
  have last : tokens.getLast?.map (·.kind) = tokens'.getLast?.map (·.kind) := by
    rw [← List.getLast?_map, ← List.getLast?_map, kinds]
  by_cases ended : tokens.getLast?.map (·.kind) = some .finish
  · -- what is behind the first end of the input is not read
    obtain ⟨body, first, others, rfl, inner, finish, closed⟩ := exists_first_finish ended
    obtain ⟨body', first', others', rfl, front, same⟩ := ts.exists_split
    have inner' : ∀ t ∈ body', t.kind ≠ .finish := by
      intro t mem kind
      have among : TokenKind.finish ∈ body.map (·.kind) := by
        rw [front.map_kind, ← kind]
        exact List.mem_map_of_mem mem
      obtain ⟨u, member, isFinish⟩ := List.mem_map.1 among
      exact inner u member isFinish
    have finish' : first'.kind = .finish := same.kind.symm.trans finish
    have closed' : (first' :: others').getLast?.map (·.kind) = some .finish := by
      rw [ended, List.getLast?_append] at last
      simpa using last.symm
    rw [Expr.ofTokens_append_end finish inner closed, Expr.ofTokens_append_end finish' inner' closed']
    exact lockstep_ofTokens_append front same finish inner finish' inner'
  · rw [Expr.ofTokens, Expr.ofTokens, if_neg ended, if_neg (last ▸ ended)]
    exact .error (.misuse _)

theorem SameTokens.refl {limit limit' : Int} (le : limit ≤ limit') (tokens : List Token) :
    Pairing.SameTokens ⟨Eq, limit, limit', le⟩ tokens tokens :=
  List.forall₂_same.2 fun _ _ => ⟨rfl, rfl, rfl⟩

/-- The same fault at equal positions is an equal fault. -/
theorem SameFault.eq {limit limit' : Int} {le : limit ≤ limit'} {fault fault' : Fault SyntaxError}
    (same : Pairing.SameFault ⟨Eq, limit, limit', le⟩ fault fault') : fault = fault' := by
  cases same with
  | placed place equal =>
      cases equal
      rw [SyntaxError.placedAt_self place]
  | unplaced => rfl
  | misuse => rfl

end Pairing

end Parsing

open Parsing

/-- Under a lower limit, tokens are nested too deeply for it or come to what they come to under a
higher limit. -/
theorem ofTokens_limit_mono (tokens : List Token) (limit limit' : Int) (le : limit ≤ limit') :
    (∃ position, Expr.ofTokens limit tokens = .error (.failure (.tooDeeplyNested limit position))) ∨
      Expr.ofTokens limit tokens = Expr.ofTokens limit' tokens := by
  have lockstep := Pairing.lockstep_ofTokens (Pairing.SameTokens.refl le tokens)
  dsimp only at lockstep
  generalize Expr.ofTokens limit tokens = x at lockstep ⊢
  generalize Expr.ofTokens limit' tokens = y at lockstep ⊢
  cases lockstep with
  | ok same => exact .inr (congrArg Except.ok same)
  | error same => exact .inr (congrArg Except.error same.eq)
  | curbed _ => exact .inl ⟨_, rfl⟩

/-- In `(*` a factor is missing.  The limit one has room for the parenthesis, so that a limit of five
leads to the same error. -/
theorem ofTokens_group_without_operand :
    (1 : Int) ≤ 5 ∧
      Expr.ofTokens 1 [⟨.leftParen, "(", 0⟩, ⟨.star, "*", 1⟩, ⟨.finish, "", 2⟩] =
        .error (.failure (.unexpectedToken .operand "*" 1)) ∧
      Expr.ofTokens 5 [⟨.leftParen, "(", 0⟩, ⟨.star, "*", 1⟩, ⟨.finish, "", 2⟩] =
        .error (.failure (.unexpectedToken .operand "*" 1)) := by
  have failed : Expr.ofTokens 1 [⟨.leftParen, "(", 0⟩, ⟨.star, "*", 1⟩, ⟨.finish, "", 2⟩] =
      .error (.failure (.unexpectedToken .operand "*" 1)) := by
    have cut : Expr.ofTokens 1 ([⟨.leftParen, "(", 0⟩, ⟨.star, "*", 1⟩] ++ [⟨.finish, "", 2⟩]) =
      _ := Expr.ofTokens_append rfl (by decide) (by decide)
    refine cut.trans ?_
    simp [expression, term, factor, Parsing.power, operand, Scope.inside, Scope.deeper,
      Scope.unexpected, fail, bind, Except.bind, pure, Except.pure]
  rcases ofTokens_limit_mono [⟨.leftParen, "(", 0⟩, ⟨.star, "*", 1⟩, ⟨.finish, "", 2⟩] 1 5
    (by decide) with ⟨position, nested⟩ | same
  · cases failed.symm.trans nested
  · exact ⟨by decide, failed, same ▸ failed⟩

end Reckoner
