import Reckoner.Proofs.Parsing.Steps

/-!
# What every rule keeps

A property of parsing relates the tokens that a rule sees to those that it leaves and to the faults
with which it may stop.  A property that the single steps of the rules have is one of all rules.

## Implementation notes

An `Invariant` lists the steps: a token that is no parenthesis, a level of nesting, a group, and each
place where a fault is raised.  The theorems about the rules follow their recursion once for all
invariants.
-/

namespace Reckoner

/-- The expectation is that of a rule: an operand, or the arguments of a function. -/
inductive Expectation.OfRule : Expectation → Prop
  | operand : OfRule .operand
  | argumentsOf (function : Builtin) : OfRule (.argumentsOf function.name)

namespace Parsing

/-- A property of parsing that every step of the rules has. -/
structure Invariant where
  /-- Under the scope, the first tokens may be parsed with the others left. -/
  leaves : Scope → List Token → List Token → Prop
  /-- Under the scope, parsing the tokens may stop with the fault. -/
  stops : Scope → List Token → Fault SyntaxError → Prop
  refl (scope : Scope) (tokens : List Token) : leaves scope tokens tokens
  trans {scope : Scope} {tokens between rest : List Token} :
    leaves scope tokens between → leaves scope between rest → leaves scope tokens rest
  stops_later {scope : Scope} {tokens between : List Token} {fault : Fault SyntaxError} :
    leaves scope tokens between → stops scope between fault → stops scope tokens fault
  /-- A token that is no parenthesis is passed. -/
  pass (scope : Scope) {token : Token} (rest : List Token) : token.kind ≠ .leftParen →
    token.kind ≠ .rightParen → leaves scope (token :: rest) rest
  deeper {scope inner : Scope} {tokens rest : List Token} :
    scope.deeper tokens = .ok inner → leaves inner tokens rest → leaves scope tokens rest
  stops_deeper {scope inner : Scope} {tokens : List Token} {fault : Fault SyntaxError} :
    scope.deeper tokens = .ok inner → stops inner tokens fault → stops scope tokens fault
  /-- What stands in parentheses is passed together with them. -/
  group {scope inner : Scope} {opening closing : Token} {following rest : List Token} :
    opening.kind = .leftParen → scope.inside following = .ok inner →
    leaves inner following (closing :: rest) → closing.kind = .rightParen →
    leaves scope (opening :: following) rest
  stops_inside {scope inner : Scope} {opening : Token} {following : List Token}
    {fault : Fault SyntaxError} : opening.kind = .leftParen → scope.inside following = .ok inner →
    stops inner following fault → stops scope (opening :: following) fault
  unclosed {scope inner : Scope} {opening : Token} {following : List Token} :
    opening.kind = .leftParen → scope.inside following = .ok inner → leaves inner following [] →
    stops scope (opening :: following) (.failure (.unclosed opening.position))
  expectedClosing {scope inner : Scope} {opening token : Token} {following rest : List Token} :
    opening.kind = .leftParen → scope.inside following = .ok inner →
    leaves inner following (token :: rest) → token.kind ≠ .rightParen →
    stops scope (opening :: following) (.failure (.expectedClosing token.text token.position))
  tooDeeplyNested (scope : Scope) (token : Token) (following : List Token) :
    stops scope (token :: following)
      (.failure (.tooDeeplyNested scope.limit (scope.next following)))
  unexpected (scope : Scope) {expected : Expectation} (tokens : List Token) : expected.OfRule →
    stops scope tokens (.failure (scope.unexpected expected tokens))
  unknownName (scope : Scope) {token : Token} (rest : List Token) : token.kind = .name →
    stops scope (token :: rest) (.failure (.unknownName token.text token.position))
  argumentCount (scope : Scope) {token : Token} (rest : List Token) (arity given : Nat) :
    token.kind = .name →
    stops scope (token :: rest) (.failure (.argumentCount token.text arity given token.position))
  unreadable (scope : Scope) {token : Token} (rest : List Token) : token.kind = .number →
    stops scope (token :: rest) (.misuse (.unreadableNumeral token.text))

namespace Invariant

variable (I : Invariant)

/-- The outcome of parsing the tokens is one that the invariant allows. -/
def Obeys (scope : Scope) (tokens : List Token) {α : Type} {bound : Nat} :
    Outcome (Parsed α bound) → Prop :=
  Ensures (fun parsed => I.leaves scope tokens parsed.rest) (I.stops scope tokens)

section Obeys

variable {I} {scope : Scope} {tokens between following : List Token} {token : Token} {α β : Type}
  {b c : Nat}

/-- What is allowed for the tokens left is allowed for the tokens. -/
theorem Obeys.after {outcome : Outcome (Parsed α b)} (h : I.Obeys scope between outcome)
    (left : I.leaves scope tokens between) : I.Obeys scope tokens outcome :=
  Ensures.mono h (fun _ rest => I.trans left rest) fun _ stopped => I.stops_later left stopped

/-- A token that is no parenthesis, such as an operator, is passed first. -/
theorem Obeys.passed {outcome : Outcome (Parsed α b)} (h : I.Obeys scope following outcome)
    (found : tokens = token :: following) (left : token.kind ≠ .leftParen)
    (right : token.kind ≠ .rightParen) : I.Obeys scope tokens outcome :=
  found ▸ h.after (I.pass scope following left right)

/-- Behind a token that is no parenthesis, parsing goes on one level deeper. -/
theorem Obeys.deeper {f : Scope → Outcome (Parsed α b)} (found : tokens = token :: following)
    (left : token.kind ≠ .leftParen) (right : token.kind ≠ .rightParen)
    (h : ∀ inner, I.Obeys inner following (f inner)) :
    I.Obeys scope tokens (scope.deeper following >>= f) := by
  subst found
  have passed := I.pass scope following left right
  cases room : scope.deeper following with
  | error fault =>
      rw [Scope.fault_of_deeper room]
      exact I.tooDeeplyNested scope token following
  | ok inner =>
      exact (h inner).mono (fun _ rest => I.trans passed (I.deeper room rest))
        fun _ stopped => I.stops_later passed (I.stops_deeper room stopped)

/-- What is found in parentheses is closed before parsing goes on. -/
theorem Obeys.group {rule : Scope → Outcome (Parsed α b)} {f : Parsed α b → Outcome (Parsed β c)}
    (behind : I.leaves scope tokens (token :: following)) (kind : token.kind = .leftParen)
    (h : ∀ inner, I.Obeys inner following (rule inner))
    (next : ∀ parsed : Parsed α b, I.leaves scope tokens parsed.rest →
      I.Obeys scope tokens (f parsed)) :
    I.Obeys scope tokens (do
      let inner ← scope.inside following
      let parsed ← rule inner
      let closed ← close token.position parsed
      f closed) := by
  cases room : scope.inside following with
  | error fault =>
      rw [Scope.fault_of_inside room]
      exact I.stops_later behind (I.tooDeeplyNested scope token following)
  | ok inner =>
      apply (h inner).bind _ fun _ stopped => I.stops_later behind (I.stops_inside kind room stopped)
      intro parsed left
      unfold close
      split
      · rename_i ended
        exact I.stops_later behind (I.unclosed kind room (ended ▸ left))
      · rename_i closing rest found
        rw [found] at left
        split
        · rename_i closes
          exact next _ (I.trans behind (I.group kind room left closes))
        · rename_i other
          exact I.stops_later behind (I.expectedClosing kind room left other)

end Obeys

theorem not_paren_of_additive? {kind : TokenKind} {operator : Operator}
    (h : additive? kind = some operator) : kind ≠ .leftParen ∧ kind ≠ .rightParen := by
  constructor <;> rintro rfl <;> cases h

theorem not_paren_of_multiplicative? {kind : TokenKind} {operator : Operator}
    (h : multiplicative? kind = some operator) : kind ≠ .leftParen ∧ kind ≠ .rightParen := by
  constructor <;> rintro rfl <;> cases h

mutual

theorem obeys_expression (scope : Scope) (tokens : List Token) :
    I.Obeys scope tokens (expression scope tokens) := by
  rw [expression]
  apply (obeys_term scope tokens).and_then
  intro first left
  have := first.rest_lt
  exact (obeys_sum scope first).after left
termination_by (tokens.length, 5)

theorem obeys_sum (scope : Scope) {bound : Nat} (left : Parsed Expr bound) :
    I.Obeys scope left.rest (sum scope left) := by
  rw [sum]
  split
  · exact I.refl scope left.rest
  · rename_i token following found
    have fewer : following.length < left.rest.length := by simp [found]
    split
    · exact I.refl scope left.rest
    · rename_i operator joins
      obtain ⟨opens, closes⟩ := not_paren_of_additive? joins
      apply ((obeys_term scope following).passed found opens closes).and_then
      intro right behind
      have shorter := Nat.lt_trans right.rest_lt fewer
      exact (obeys_sum scope _).after behind
termination_by (left.rest.length, 0)

theorem obeys_term (scope : Scope) (tokens : List Token) :
    I.Obeys scope tokens (term scope tokens) := by
  rw [term]
  apply (obeys_factor scope tokens).and_then
  intro first left
  have := first.rest_lt
  exact (obeys_product scope first).after left
termination_by (tokens.length, 4)

theorem obeys_product (scope : Scope) {bound : Nat} (left : Parsed Expr bound) :
    I.Obeys scope left.rest (product scope left) := by
  rw [product]
  split
  · exact I.refl scope left.rest
  · rename_i token following found
    have fewer : following.length < left.rest.length := by simp [found]
    split
    · exact I.refl scope left.rest
    · rename_i operator joins
      obtain ⟨opens, closes⟩ := not_paren_of_multiplicative? joins
      apply ((obeys_factor scope following).passed found opens closes).and_then
      intro right behind
      have shorter := Nat.lt_trans right.rest_lt fewer
      exact (obeys_product scope _).after behind
termination_by (left.rest.length, 0)

theorem obeys_factor (scope : Scope) (tokens : List Token) :
    I.Obeys scope tokens (factor scope tokens) := by
  match tokens with
  | [] =>
      rw [factor]
      exact obeys_power scope []
  | token :: following =>
      rw [factor]
      split
      · rename_i minus
        apply Obeys.deeper rfl (by simp [minus]) (by simp [minus])
        intro inner
        apply (obeys_factor inner following).and_then
        intro operand left
        exact left
      · exact obeys_power scope (token :: following)
termination_by (tokens.length, 3)

theorem obeys_power (scope : Scope) (tokens : List Token) :
    I.Obeys scope tokens (power scope tokens) := by
  rw [power_eq_bind]
  apply (obeys_operand scope tokens).and_then
  intro base left
  have := base.rest_lt
  exact (obeys_raise scope base).after left
termination_by (tokens.length, 2)

theorem obeys_raise (scope : Scope) {bound : Nat} (base : Parsed Expr bound) :
    I.Obeys scope base.rest (raise scope base) := by
  unfold raise
  split
  · exact I.refl scope base.rest
  · rename_i token following found
    have fewer : following.length < base.rest.length := by simp [found]
    split
    · rename_i caret
      apply Obeys.deeper found (by simp [caret]) (by simp [caret])
      intro inner
      apply (obeys_factor inner following).and_then
      intro exponent left
      exact left
    · exact I.refl scope base.rest
termination_by (base.rest.length, 0)

theorem obeys_operand (scope : Scope) (tokens : List Token) :
    I.Obeys scope tokens (operand scope tokens) := by
  match tokens with
  | [] =>
      rw [operand]
      exact I.unexpected scope [] .operand
  | token :: following =>
      rw [operand]
      split
      · rename_i number
        split
        · exact I.pass scope following (by simp [number]) (by simp [number])
        · exact I.unreadable scope following number
      · rename_i opens
        exact Obeys.group (I.refl scope _) opens (fun inner => obeys_expression inner following)
          fun parsed left => left
      · rename_i name
        split
        · rename_i function known
          apply (obeys_call scope token function following name
            (Builtin.name_eq_of_ofName? known).symm).and_then
          intro called left
          exact left
        · split
          · exact I.pass scope following (by simp [name]) (by simp [name])
          · exact I.unknownName scope following name
      · exact I.unexpected scope (token :: following) .operand
termination_by (tokens.length, 1)

/-- The name in front of the arguments is passed with them. -/
theorem obeys_call (scope : Scope) (name : Token) (function : Builtin) (tokens : List Token)
    (named : name.kind = .name) (spelled : name.text = function.name) :
    I.Obeys scope (name :: tokens) (call scope name.position function tokens) := by
  have passed : I.leaves scope (name :: tokens) tokens :=
    I.pass scope tokens (by simp [named]) (by simp [named])
  match tokens with
  | [] =>
      rw [call]
      exact I.stops_later passed (I.unexpected scope [] (.argumentsOf function))
  | token :: following =>
      rw [call]
      split
      · rename_i opens
        apply Obeys.group passed opens fun inner => obeys_arguments inner following
        intro listed left
        split
        · exact left
        · exact spelled ▸ I.argumentCount scope _ _ _ named
      · exact I.stops_later passed (I.unexpected scope _ (.argumentsOf function))
termination_by (tokens.length, 0)

theorem obeys_arguments (scope : Scope) (tokens : List Token) :
    I.Obeys scope tokens (arguments scope tokens) := by
  rw [arguments]
  split
  · exact I.refl scope tokens
  · apply (obeys_expression scope tokens).and_then
    intro first left
    have := first.rest_lt
    exact (obeys_furtherArguments scope _).after left
termination_by (tokens.length, 6)

theorem obeys_furtherArguments (scope : Scope) {bound : Nat} (found : Parsed (List Expr) bound) :
    I.Obeys scope found.rest (furtherArguments scope found) := by
  rw [furtherArguments]
  split
  · exact I.refl scope found.rest
  · rename_i token following behind
    have fewer : following.length < found.rest.length := by simp [behind]
    split
    · rename_i comma
      apply ((obeys_expression scope following).passed behind (by simp [comma])
        (by simp [comma])).and_then
      intro next left
      have shorter := Nat.lt_trans next.rest_lt fewer
      exact (obeys_furtherArguments scope _).after left
    · exact I.refl scope found.rest
termination_by (found.rest.length, 0)

end

end Invariant

end Parsing

end Reckoner
