import Reckoner.Expr.Grammar
import Reckoner.Proofs.Parsing.Steps

/-!
# What the grammar derives is parsed

Tokens that derive a tree are parsed as that tree by any scope with room for the nesting, whatever
stands behind them that does not continue the phrase.  The grammar is therefore unambiguous.

## Implementation notes

Sums and products lean to the left in the grammar and are found in a loop.  `Finds` states for their
rules what holds in the middle of the loop, so that the induction is on the derivation: a longer sum
is a shorter one behind which the loop goes round once more.
-/

namespace Reckoner

open Parsing

namespace Rule

/-- The tokens that a phrase of the rule can start with. -/
def starts : Rule → TokenKind → Bool
  | .power, kind | .operand, kind => kind = .number || kind = .name || kind = .leftParen
  | _, kind => kind = .minus || kind = .number || kind = .name || kind = .leftParen

/-- The tokens behind a phrase of the rule that would continue it. -/
def absorbs : Rule → TokenKind → Bool
  | .operand, _ => false
  | .power, kind | .factor, kind => kind = .caret
  | .term, kind => kind = .caret || (multiplicative? kind).isSome
  | .expression, kind => kind = .caret || (multiplicative? kind).isSome || (additive? kind).isSome

/-- The rule for the parts of a phrase that a loop joins. -/
def part : Rule → Rule
  | .expression => .term
  | .term => .factor
  | rule => rule

theorem starts_factor {kind : TokenKind} (h : power.starts kind = true) :
    factor.starts kind = true := by
  revert h
  cases kind <;> decide

/-- What continues a part continues the phrase. -/
theorem absorbs_of_part {rule : Rule} {kind : TokenKind} (h : rule.part.absorbs kind = true) :
    rule.absorbs kind = true := by
  revert h
  cases rule <;> cases kind <;> decide

end Rule

theorem Derives.starts {rule : Rule} {n : Nat} {ts : List Token} {e : Expr}
    (h : Derives rule n ts e) : ∃ t us, ts = t :: us ∧ rule.starts t.kind = true := by
  match h with
  | .term h | .factor h | .operand h =>
      obtain ⟨t, us, rfl, first⟩ := starts h
      exact ⟨t, us, rfl, first⟩
  | .power h =>
      obtain ⟨t, us, rfl, first⟩ := starts h
      exact ⟨t, us, rfl, Rule.starts_factor first⟩
  | .add h _ _ | .sub h _ _ | .mul h _ _ | .div h _ _ =>
      obtain ⟨t, us, rfl, first⟩ := starts h
      exact ⟨t, _, rfl, first⟩
  | .raise h _ _ =>
      obtain ⟨t, us, rfl, first⟩ := starts h
      exact ⟨t, _, rfl, first⟩
  | .negate kind _ | .number kind _ | .constant _ kind _ | .group kind _ _
  | .call _ kind _ _ _ _ _ => exact ⟨_, _, rfl, by rw [kind]; rfl⟩
termination_by structural h

theorem DerivesAll.starts {n : Nat} {ts : List Token} {es : List Expr} (h : DerivesAll n ts es) :
    ∃ t us, ts = t :: us ∧ Rule.expression.starts t.kind = true := by
  match h with
  | .one h => exact h.starts
  | .more h _ _ =>
      obtain ⟨t, us, rfl, first⟩ := h.starts
      exact ⟨t, _, rfl, first⟩

namespace Parsing

/-- The tokens are at an end, or the next one does not continue a phrase of the rule. -/
def Stops (rule : Rule) (rest : List Token) : Prop :=
  ∀ token following, rest = token :: following → rule.absorbs token.kind = false

namespace Stops

variable {rule : Rule} {token : Token} {rest : List Token}

theorem nil (rule : Rule) : Stops rule [] := by
  rintro _ _ ⟨⟩

theorem cons (h : rule.absorbs token.kind = false) : Stops rule (token :: rest) := by
  rintro _ _ ⟨⟩
  exact h

theorem operand : Stops .operand rest := fun _ _ _ => rfl

theorem part (h : Stops rule rest) : Stops rule.part rest := by
  intro token following found
  cases absorbed : rule.part.absorbs token.kind with
  | false => rfl
  | true => exact (Rule.absorbs_of_part absorbed).symm.trans (h token following found)

theorem additive?_eq_none (h : Stops .expression rest) {following : List Token}
    (found : rest = token :: following) : additive? token.kind = none := by
  have := h token following found
  simp only [Rule.absorbs, Bool.or_eq_false_iff] at this
  simpa using this.2

theorem multiplicative?_eq_none (h : Stops .term rest) {following : List Token}
    (found : rest = token :: following) : multiplicative? token.kind = none := by
  have := h token following found
  simp only [Rule.absorbs, Bool.or_eq_false_iff] at this
  simpa using this.2

theorem ne_caret (h : Stops .power rest) {following : List Token}
    (found : rest = token :: following) : token.kind ≠ .caret := by
  have := h token following found
  simpa [Rule.absorbs] using this

end Stops

/-- The rule finds the tree in front of the tokens `rest`.  A rule with a loop does so on the way:
whatever the loop makes of the tree, the rule makes of the tokens. -/
def Finds (scope : Scope) (rest tokens : List Token) (e : Expr) : Rule → Prop
  | .expression => ∀ value after, (∀ {bound : Nat} (left : Parsed Expr bound), left.value = e →
      left.rest = rest → Yields (sum scope left) value after) →
      Yields (expression scope tokens) value after
  | .term => ∀ value after, (∀ {bound : Nat} (left : Parsed Expr bound), left.value = e →
      left.rest = rest → Yields (product scope left) value after) →
      Yields (term scope tokens) value after
  | .factor => Yields (factor scope tokens) e rest
  | .power => Yields (power scope tokens) e rest
  | .operand => Yields (operand scope tokens) e rest

namespace Finds

variable {scope : Scope} {token : Token} {tokens following rest : List Token} {operator : Operator}
  {e l r : Expr}

/-- The loop of a term is left where nothing continues the term. -/
theorem term (h : Finds scope rest tokens e .term) (stops : Stops .term rest) :
    Yields (term scope tokens) e rest := by
  apply h e rest
  intro bound left same behind
  rw [← same, ← behind]
  exact .product_stop fun token following found =>
    stops.multiplicative?_eq_none (behind.symm.trans found)

/-- The loop of an expression is left where nothing continues the expression. -/
theorem expression (h : Finds scope rest tokens e .expression) (stops : Stops .expression rest) :
    Yields (expression scope tokens) e rest := by
  apply h e rest
  intro bound left same behind
  rw [← same, ← behind]
  exact .sum_stop fun token following found =>
    stops.additive?_eq_none (behind.symm.trans found)

/-- The loop of an expression goes round. -/
theorem additive (left : Finds scope (token :: following) tokens l .expression)
    (kind : additive? token.kind = some operator)
    (right : Yields (Parsing.term scope following) r rest) :
    Finds scope rest tokens (.binary operator l r) .expression := by
  intro value after next
  apply left value after
  intro bound found same behind
  apply Yields.sum_step behind kind right
  intro joined equal
  exact next joined (by rw [equal, same])

/-- The loop of a term goes round. -/
theorem multiplicative (left : Finds scope (token :: following) tokens l .term)
    (kind : multiplicative? token.kind = some operator)
    (right : Yields (factor scope following) r rest) :
    Finds scope rest tokens (.binary operator l r) .term := by
  intro value after next
  apply left value after
  intro bound found same behind
  apply Yields.product_step behind kind right
  intro joined equal
  exact next joined (by rw [equal, same])

end Finds

mutual

/-- A phrase is found in front of any tokens that do not continue its last part. -/
theorem finds_of_derives {rule : Rule} {n : Nat} {ts : List Token} {e : Expr}
    (h : Derives rule n ts e) (scope : Scope) (rest : List Token) :
    scope.Fits n → Stops rule.part rest → Finds scope rest (ts ++ rest) e rule := by
  match h with
  | .term derived =>
      intro fits stops value after next
      have found := (finds_of_derives derived scope rest fits stops.part).term stops
      rw [expression]
      exact found.bind fun first same behind => next first same behind
  | .add left kind right | .sub left kind right =>
      intro fits stops
      obtain ⟨outer, inner⟩ := Scope.fits_max.1 fits
      rw [List.append_assoc]
      have behind := (finds_of_derives right scope rest inner stops.part).term stops
      exact (finds_of_derives left scope _ outer (.cons (by rw [kind]; rfl))).additive
        (by rw [kind]; rfl) behind
  | .factor derived =>
      intro fits stops value after next
      have found : Yields .. := finds_of_derives derived scope rest fits stops
      rw [term]
      exact found.bind fun first same behind => next first same behind
  | .mul left kind right | .div left kind right =>
      intro fits stops
      obtain ⟨outer, inner⟩ := Scope.fits_max.1 fits
      rw [List.append_assoc]
      exact (finds_of_derives left scope _ outer (.cons (by rw [kind]; rfl))).multiplicative
        (by rw [kind]; rfl) (finds_of_derives right scope rest inner stops)
  | .power derived =>
      intro fits stops
      have found := finds_of_derives derived scope rest fits stops
      obtain ⟨token, following, rfl, first⟩ := derived.starts
      apply Yields.factor_power ?_ found
      intro kind
      rw [kind] at first
      cases first
  | .negate kind derived =>
      intro fits stops
      exact .factor_negate kind fits
        fun deeper room => finds_of_derives derived deeper rest room stops
  | .operand derived =>
      intro fits stops
      exact .power_operand (fun _ _ found => stops.ne_caret found)
        (finds_of_derives derived scope rest fits .operand)
  | .raise left kind right =>
      intro fits stops
      obtain ⟨outer, inner⟩ := Scope.fits_max.1 fits
      rw [List.append_assoc]
      exact .power_raise kind inner (finds_of_derives left scope _ outer .operand)
        fun deeper room => finds_of_derives right deeper rest room stops
  | .number kind read => exact fun _ _ => .operand_number kind read
  | .constant c kind spelled => exact fun _ _ => .operand_constant kind spelled
  | .group opening derived closing =>
      intro fits _
      rw [List.cons_append, List.append_assoc]
      have stops : Stops .expression (_ :: rest) := .cons (by rw [closing]; rfl)
      exact .operand_group opening fits
        (fun inner room => (finds_of_derives derived inner _ room stops.part).expression stops)
        closing
  | .call f kind spelled opening derived closing count =>
      intro fits _
      rw [List.cons_append, List.cons_append, List.append_assoc]
      refine .operand_call kind spelled (.call opening fits (fun inner room => ?_) closing count)
      obtain ⟨e, between, first, further⟩ :=
        finds_of_derivesAll derived inner _ rest [] room closing
      obtain ⟨token, following, rfl, start⟩ := derived.starts
      apply Yields.arguments ?_ first further
      intro kind
      rw [kind] at start
      cases start

/-- A list of arguments is found in front of a closing parenthesis: the first expression, and behind
it the others, whatever arguments have been found before. -/
theorem finds_of_derivesAll {n : Nat} {ts : List Token} {es : List Expr} (h : DerivesAll n ts es)
    (scope : Scope) (right : Token) (rest : List Token) (found : List Expr) :
    scope.Fits n → right.kind = .rightParen →
      ∃ e between, Yields (expression scope (ts ++ right :: rest)) e between ∧
        ∀ {bound : Nat} (first : Parsed (List Expr) bound), first.value = e :: found →
          first.rest = between →
          Yields (furtherArguments scope first) (found.reverse ++ es) (right :: rest) := by
  match h with
  | .one derived =>
      intro fits closing
      have stops : Stops .expression (right :: rest) := .cons (by rw [closing]; rfl)
      refine ⟨_, _, (finds_of_derives derived scope _ fits stops.part).expression stops, ?_⟩
      intro bound first same behind
      have stop : Yields (furtherArguments scope first) _ _ :=
        .furtherArguments_stop behind (by rw [closing]; decide)
      rwa [behind, same, List.reverse_cons] at stop
  | @DerivesAll.more _ _ _ us e _ comma derived kind others =>
      intro fits closing
      obtain ⟨outer, inner⟩ := Scope.fits_max.1 fits
      rw [List.append_assoc]
      have stops : Stops .expression (comma :: (us ++ right :: rest)) := .cons (by rw [kind]; rfl)
      obtain ⟨next, between, second, further⟩ :=
        finds_of_derivesAll others scope right rest (e :: found) inner closing
      refine ⟨_, _, (finds_of_derives derived scope _ outer stops.part).expression stops, ?_⟩
      intro bound first same behind
      apply Yields.furtherArguments_step behind kind second
      intro joined equal after
      simpa using further joined (by rw [equal, same]) after

end

/-- An expression in front of tokens that do not continue it. -/
theorem yields_expression_of_derives {n : Nat} {ts : List Token} {e : Expr}
    (h : Derives .expression n ts e) {scope : Scope} (fits : scope.Fits n) {rest : List Token}
    (stops : Stops .expression rest) : Yields (expression scope (ts ++ rest)) e rest :=
  (finds_of_derives h scope rest fits stops.part).expression stops

end Parsing

/-- Tokens derive one expression at most, whatever the nesting. -/
theorem Derives.unique {m n : Nat} {ts : List Token} {d e : Expr}
    (h : Derives .expression m ts d) (h' : Derives .expression n ts e) : d = e := by
  have room (k : Nat) (le : k ≤ max m n) : Scope.Fits ⟨(max m n : Nat), 0, 0, 0⟩ k := by
    right
    simp only
    omega
  have first := yields_expression_of_derives h (room m (Nat.le_max_left m n)) (.nil .expression)
  have second := yields_expression_of_derives h' (room n (Nat.le_max_right m n)) (.nil .expression)
  exact first.unique second

end Reckoner
