import Reckoner.Proofs.Parsing.Phrase

/-!
# Texts with an unknown name

A text in which an unknown name stands where an operand is expected, behind parts that are phrases,
fails to be parsed for that name.  Nothing behind the name has a say in it.

## Implementation notes

`Misnomer` is the counterpart of `Phrase` for such texts, with one lemma for each place where the
name can stand in a larger text.  The nesting counts the part in front of the name, so that a limit
with room for it is not what stops the parser.
-/

namespace Reckoner

open Token Parsing
open Text (isLayout)

namespace Parsing

/-- The outcome is that a name is unknown. -/
def Misses {α : Type} : Outcome α → Prop :=
  Ensures (fun _ => False) fun fault =>
    ∃ name position, fault = .failure (.unknownName name position)

namespace Misses

variable {scope : Scope} {bound n : Nat} {token right : Token} {tokens following : List Token}
  {l : Expr} {operator : Operator} {function : Builtin}

theorem bind {α β : Type} {outcome : Outcome α} (h : Misses outcome) (f : α → Outcome β) :
    Misses (outcome >>= f) := by
  apply Ensures.bind h
  · intro _ impossible
    exact impossible.elim
  · intro fault missed
    exact missed

/-- What comes first succeeds, and what follows it does not. -/
theorem after {α β : Type} {outcome : Outcome α} {value : α → Prop} {f : α → Outcome β}
    (h : Ensures value (fun _ => False) outcome) (next : ∀ a, value a → Misses (f a)) :
    Misses (outcome >>= f) := by
  apply Ensures.bind h next
  intro _ impossible
  exact impossible.elim

theorem power (h : Misses (operand scope tokens)) : Misses (power scope tokens) := by
  rw [Parsing.power]
  exact h.bind _

theorem factor_power (kind : token.kind ≠ .minus)
    (h : Misses (Parsing.power scope (token :: following))) :
    Misses (factor scope (token :: following)) := by
  rwa [Parsing.factor, if_neg kind]

/-- A minus sign starts no operand, so that a factor begins with the operand at fault. -/
theorem factor (h : Misses (operand scope tokens)) : Misses (factor scope tokens) := by
  cases tokens with
  | nil =>
      rw [Parsing.factor]
      exact h.power
  | cons token following =>
      apply factor_power ?_ h.power
      intro kind
      rw [operand] at h
      simp only [kind] at h
      obtain ⟨name, position, same⟩ := h
      simp [Scope.unexpected, kind] at same

theorem term (h : Misses (Parsing.factor scope tokens)) : Misses (Parsing.term scope tokens) := by
  rw [Parsing.term]
  exact h.bind _

theorem expression (h : Misses (Parsing.term scope tokens)) :
    Misses (Parsing.expression scope tokens) := by
  rw [Parsing.expression]
  exact h.bind _

theorem factor_negate (kind : token.kind = .minus) (room : scope.Fits (n + 1))
    (h : ∀ deeper : Scope, deeper.Fits n → Misses (Parsing.factor deeper following)) :
    Misses (Parsing.factor scope (token :: following)) := by
  rw [Parsing.factor, if_pos kind]
  exact after (room.deeper following) fun deeper fits => (h deeper fits).bind _

theorem operand_name (kind : token.kind = .name) (unknown : Builtin.ofName? token.text = none)
    (unnamed : Constant.ofName? token.text = none) :
    Misses (operand scope (token :: following)) := by
  rw [operand]
  simp only [kind, unknown, unnamed]
  exact ⟨_, _, rfl⟩

theorem operand_group (kind : token.kind = .leftParen) (room : scope.Fits (n + 1))
    (h : ∀ inner : Scope, inner.Fits n → Misses (Parsing.expression inner following)) :
    Misses (operand scope (token :: following)) := by
  rw [operand]
  simp only [kind]
  exact after (room.inside following) fun inner fits => (h inner fits).bind _

theorem operand_call (kind : token.kind = .name) (spelled : token.text = function.name)
    (opening : right.kind = .leftParen) (room : scope.Fits (n + 1))
    (h : ∀ inner : Scope, inner.Fits n → Misses (arguments inner following)) :
    Misses (operand scope (token :: right :: following)) := by
  rw [operand]
  simp only [kind, spelled, Builtin.ofName?_name]
  apply bind
  rw [call, if_pos opening]
  exact after (room.inside following) fun inner fits => (h inner fits).bind _

theorem sum_step {left : Parsed Expr bound} (found : left.rest = token :: following)
    (kind : additive? token.kind = some operator) (h : Misses (Parsing.term scope following)) :
    Misses (sum scope left) := by
  obtain ⟨next, -, step⟩ := sum_eq_bind scope found kind
  rw [step]
  exact h.bind _

theorem product_step {left : Parsed Expr bound} (found : left.rest = token :: following)
    (kind : multiplicative? token.kind = some operator)
    (h : Misses (Parsing.factor scope following)) : Misses (product scope left) := by
  obtain ⟨next, -, step⟩ := product_eq_bind scope found kind
  rw [step]
  exact h.bind _

theorem power_raise (kind : token.kind = .caret) (room : scope.Fits (n + 1))
    (h : Yields (operand scope tokens) l (token :: following))
    (exponent : ∀ deeper : Scope, deeper.Fits n → Misses (Parsing.factor deeper following)) :
    Misses (Parsing.power scope tokens) := by
  rw [power_eq_bind]
  apply after h
  rintro base ⟨-, behind⟩
  obtain ⟨next, -, eq⟩ := raise_eq_bind scope behind kind
  rw [eq]
  exact after (room.deeper following) fun deeper fits => (exponent deeper fits).bind _

/-- Behind an operand and an operator, the right operand is parsed next. -/
theorem binary {m : Nat} {ts : List Token} (left : Derives .operand m ts l)
    (kind : token.kind = operator.mark) (outer : scope.Fits m) (room : scope.Fits (n + 1))
    (h : ∀ inner : Scope, inner.Fits n → Misses (operand inner following)) :
    Misses (Parsing.expression scope (ts ++ token :: following)) := by
  have here : Misses (operand scope following) := h scope (room.mono (Nat.le_succ n))
  cases operator with
  | add | sub =>
      have found := finds_of_derives (.factor (.power (.operand left))) scope
        (token :: following) outer (.cons (by rw [kind]; rfl))
      have parsed := found.term (.cons (by rw [kind]; rfl))
      rw [Parsing.expression]
      apply after parsed
      rintro first ⟨-, behind⟩
      exact sum_step behind (by rw [kind]; rfl) here.factor.term
  | mul | div =>
      have parsed : Yields .. := finds_of_derives (.power (.operand left)) scope
        (token :: following) outer (.cons (by rw [kind]; rfl))
      apply expression
      rw [Parsing.term]
      apply after parsed
      rintro first ⟨-, behind⟩
      exact product_step behind (by rw [kind]; rfl) here.factor
  | pow =>
      have parsed : Yields .. := finds_of_derives left scope (token :: following) outer .operand
      obtain ⟨first, others, rfl, start⟩ := left.starts
      have raised := power_raise kind room parsed fun deeper fits => (h deeper fits).factor
      apply expression
      apply term
      apply factor_power ?_ raised
      intro minus
      rw [minus] at start
      cases start

end Misses

theorem expression_nil {scope : Scope} :
    expression scope [] = fail (scope.unexpected .operand []) := by
  rw [expression, term, factor, power, operand]
  rfl

/-- A closing parenthesis starts no expression. -/
theorem expression_rightParen {scope : Scope} {token : Token} {following : List Token}
    (kind : token.kind = .rightParen) :
    expression scope (token :: following) =
      fail (scope.unexpected .operand (token :: following)) := by
  rw [expression, term, factor, if_neg (by rw [kind]; decide), power, operand]
  simp only [kind]
  rfl

theorem not_misses_unexpected {α : Type} {scope : Scope} {expected : Expectation}
    {tokens : List Token} : ¬Misses (fail (scope.unexpected expected tokens) : Outcome α) := by
  rintro ⟨name, position, same⟩
  unfold Scope.unexpected at same
  split at same <;> split at same <;> cases same

/-- Arguments are not parsed because a name is unknown: in the first expression, or in a later one
whatever has been found before. -/
def MissesArguments (scope : Scope) (tokens : List Token) : Prop :=
  Misses (expression scope tokens) ∨ ∃ e between, Yields (expression scope tokens) e between ∧
    ∀ {bound : Nat} (found : Parsed (List Expr) bound), found.rest = between →
      Misses (furtherArguments scope found)

namespace MissesArguments

variable {scope : Scope} {bound : Nat} {token : Token} {tokens following : List Token}

theorem arguments (h : MissesArguments scope tokens) : Misses (arguments scope tokens) := by
  rw [Parsing.arguments]
  split
  · rename_i closing
    cases tokens with
    | nil => cases closing
    | cons token following =>
        have kind : token.kind = .rightParen := by simpa using closing
        rw [MissesArguments, expression_rightParen kind] at h
        rcases h with missed | ⟨_, _, impossible, _⟩
        · exact (not_misses_unexpected missed).elim
        · exact impossible.elim
  · rcases h with missed | ⟨e, between, first, further⟩
    · exact missed.bind _
    · apply Misses.after first
      rintro parsed ⟨-, behind⟩
      exact further _ behind

/-- Behind a comma, the next argument is parsed. -/
theorem further (h : MissesArguments scope following) {found : Parsed (List Expr) bound}
    (behind : found.rest = token :: following) (kind : token.kind = .comma) :
    Misses (furtherArguments scope found) := by
  obtain ⟨extend, extended, step⟩ := furtherArguments_eq_bind scope behind kind
  rw [step]
  rcases h with missed | ⟨e, between, first, further⟩
  · exact missed.bind _
  · apply Misses.after first
    rintro parsed ⟨-, after⟩
    exact further _ ((extended parsed).2.trans after)

end MissesArguments

/-- The outcome of a rule. -/
def parseBy (scope : Scope) (tokens : List Token) :
    Rule → Outcome (Parsed Expr tokens.length)
  | .expression => expression scope tokens
  | .term => term scope tokens
  | .factor => factor scope tokens
  | .power => power scope tokens
  | .operand => operand scope tokens

end Parsing

/-- The text spells words that lead the rule to an unknown name, with at most the given nesting in
front of it. -/
def Misnomer (rule : Rule) (n : Nat) (cs : List Char) : Prop :=
  ∃ words, Spells cs words ∧ ∀ ts : List Token, ts.map word = words →
    ∀ (scope : Scope) (rest : List Token), scope.Fits n → Misses (parseBy scope (ts ++ rest) rule)

/-- The text spells words that lead to an unknown name in one of several arguments. -/
def MisnomerAll (n : Nat) (cs : List Char) : Prop :=
  ∃ words, Spells cs words ∧ ∀ ts : List Token, ts.map word = words →
    ∀ (scope : Scope) (rest : List Token), scope.Fits n → MissesArguments scope (ts ++ rest)

section Misnomer

variable {rule : Rule} {m n : Nat} {cs ds : List Char} {l e : Expr} {words : List Word}

theorem Misnomer.mono (h : Misnomer rule m cs) (le : m ≤ n) : Misnomer rule n cs := by
  obtain ⟨words, spelled, missed⟩ := h
  exact ⟨words, spelled, fun ts same scope rest fits => missed ts same scope rest (fits.mono le)⟩

theorem Misnomer.name (h : IsName cs) (unknown : Builtin.ofName? (String.ofList cs) = none)
    (unnamed : Constant.ofName? (String.ofList cs) = none) : Misnomer .operand 0 cs := by
  refine ⟨_, .single (.name h), fun ts same scope rest _ => ?_⟩
  obtain ⟨t, rfl, mark⟩ := List.map_eq_singleton_iff.1 same
  obtain ⟨kind, text⟩ := Prod.mk.inj mark
  exact .operand_name kind (text ▸ unknown) (text ▸ unnamed)

theorem Misnomer.of_operand (h : Misnomer .operand n cs) : Misnomer .expression n cs := by
  obtain ⟨words, spelled, missed⟩ := h
  exact ⟨words, spelled, fun ts same scope rest fits =>
    .expression (.term (.factor (missed ts same scope rest fits)))⟩

theorem Misnomer.group (h : Misnomer .expression n cs) :
    Misnomer .operand (n + 1) ('(' :: (cs ++ [')'])) := by
  obtain ⟨words, spelled, missed⟩ := h
  refine ⟨_, spelled.group, fun ts same scope rest fits => ?_⟩
  obtain ⟨left, others, rfl, mark, back⟩ := List.map_eq_cons_iff.1 same
  obtain ⟨inner, behind, rfl, front, -⟩ := List.map_eq_append_iff.1 back
  rw [List.cons_append, List.append_assoc]
  exact .operand_group (Prod.mk.inj mark).1 fits fun deeper room => missed inner front deeper _ room

theorem Misnomer.negate (h : Misnomer .operand n cs) :
    Misnomer .expression (n + 1) ('-' :: cs) := by
  obtain ⟨words, spelled, missed⟩ := h
  refine ⟨_, .symbol .minus rfl spelled, fun ts same scope rest fits => ?_⟩
  obtain ⟨sign, others, rfl, mark, back⟩ := List.map_eq_cons_iff.1 same
  exact .expression (.term (.factor_negate (Prod.mk.inj mark).1 fits fun deeper room =>
    .factor (missed others back deeper rest room)))

/-- The left operand misses a name; the right one only has to be spelled. -/
theorem Misnomer.binary_left (operator : Operator) (left : Misnomer .operand m cs)
    (gap : List Char) (blank : ∀ c ∈ gap, isLayout c = true)
    (gap' : List Char) (blank' : ∀ c ∈ gap', isLayout c = true) (right : Spells ds words) :
    Misnomer .expression m (cs ++ (gap ++ (operator.symbol.toList ++ (gap' ++ ds)))) := by
  obtain ⟨words, spelled, missed⟩ := left.of_operand
  refine ⟨_, spelled.binary operator gap blank gap' blank' right, fun ts same scope rest fits => ?_⟩
  obtain ⟨before, behind, rfl, front, -⟩ := List.map_eq_append_iff.1 same
  rw [List.append_assoc]
  exact missed before front scope _ fits

theorem Misnomer.binary_right (operator : Operator) (left : Phrase .operand m cs l)
    (gap : List Char) (blank : ∀ c ∈ gap, isLayout c = true)
    (gap' : List Char) (blank' : ∀ c ∈ gap', isLayout c = true) (right : Misnomer .operand n ds) :
    Misnomer .expression (max m (n + 1))
      (cs ++ (gap ++ (operator.symbol.toList ++ (gap' ++ ds)))) := by
  obtain ⟨words, spelled, derived⟩ := left
  obtain ⟨words', spelled', missed⟩ := right
  refine ⟨_, spelled.binary operator gap blank gap' blank' spelled',
    fun ts same scope rest fits => ?_⟩
  obtain ⟨before, others, rfl, front, back⟩ := List.map_eq_append_iff.1 same
  obtain ⟨t, behind, rfl, mark, back⟩ := List.map_eq_cons_iff.1 back
  obtain ⟨k, bound, d⟩ := derived before front
  obtain ⟨outer, room⟩ := Scope.fits_max.1 fits
  rw [List.append_assoc]
  exact .binary d (Prod.mk.inj mark).1 (outer.mono bound) room fun inner fits =>
    missed behind back inner rest fits

theorem MisnomerAll.one (h : Misnomer .expression n cs) : MisnomerAll n cs := by
  obtain ⟨words, spelled, missed⟩ := h
  exact ⟨words, spelled, fun ts same scope rest fits => .inl (missed ts same scope rest fits)⟩

/-- The first argument misses a name; the others only have to be spelled. -/
theorem MisnomerAll.first (h : Misnomer .expression n cs) (gap : List Char)
    (blank : ∀ c ∈ gap, isLayout c = true) (others : Spells ds words) :
    MisnomerAll n (cs ++ ',' :: (gap ++ ds)) := by
  obtain ⟨words, spelled, missed⟩ := h
  refine ⟨_, spelled.comma gap blank others, fun ts same scope rest fits => .inl ?_⟩
  obtain ⟨before, behind, rfl, front, -⟩ := List.map_eq_append_iff.1 same
  rw [List.append_assoc]
  exact missed before front scope _ fits

theorem MisnomerAll.more (first : Phrase .expression m cs e) (gap : List Char)
    (blank : ∀ c ∈ gap, isLayout c = true) (others : MisnomerAll n ds) :
    MisnomerAll (max m n) (cs ++ ',' :: (gap ++ ds)) := by
  obtain ⟨words, spelled, derived⟩ := first
  obtain ⟨words', spelled', missed⟩ := others
  refine ⟨_, spelled.comma gap blank spelled', fun ts same scope rest fits => .inr ?_⟩
  obtain ⟨before, others, rfl, front, back⟩ := List.map_eq_append_iff.1 same
  obtain ⟨t, behind, rfl, mark, back⟩ := List.map_eq_cons_iff.1 back
  obtain ⟨k, bound, d⟩ := derived before front
  obtain ⟨outer, inner⟩ := Scope.fits_max.1 fits
  have kind : t.kind = .comma := (Prod.mk.inj mark).1
  rw [List.append_assoc]
  refine ⟨e, t :: (behind ++ rest), yields_expression_of_derives d (outer.mono bound)
    (.cons (by rw [kind]; rfl)), fun found after => ?_⟩
  exact (missed behind back scope rest inner).further after kind

theorem Misnomer.call (function : Builtin) (h : MisnomerAll n cs) :
    Misnomer .operand (n + 1) (function.name.toList ++ '(' :: (cs ++ [')'])) := by
  obtain ⟨words, spelled, missed⟩ := h
  refine ⟨_, spelled.call function, fun ts same scope rest fits => ?_⟩
  obtain ⟨name, others, rfl, mark, back⟩ := List.map_eq_cons_iff.1 same
  obtain ⟨left, others, rfl, mark', back⟩ := List.map_eq_cons_iff.1 back
  obtain ⟨inner, behind, rfl, front, -⟩ := List.map_eq_append_iff.1 back
  obtain ⟨kind, text⟩ := Prod.mk.inj mark
  rw [List.cons_append, List.cons_append, List.append_assoc]
  exact .operand_call kind text (Prod.mk.inj mark').1 fits fun deeper room =>
    (missed inner front deeper _ room).arguments

end Misnomer

section Parse

variable {source : String} {n : Nat}

/-- Where the limit has room for what stands in front of an unknown name, the name is reported. -/
theorem Expr.parse_of_misnomer (limit : Int) (h : Misnomer .expression n source.toList)
    (room : (n : Int) ≤ limit) :
    ∃ cause, Expr.parse limit source = .error (.failure cause) ∧ cause.kind = .unknownFunction := by
  obtain ⟨words, spelled, missed⟩ := h
  obtain ⟨front, same, inner, scanned⟩ := spelled.exists_scan
  have failed := missed front same ⟨limit, source.length, 0, 0⟩ [] (.inr (by simp only; omega))
  rw [List.append_nil] at failed
  have nonempty : front ≠ [] := by
    rintro rfl
    rw [parseBy, expression_nil] at failed
    exact not_misses_unexpected failed
  have blamed : Misses (ofTokens limit (front ++ [⟨.finish, "", source.length⟩])) := by
    rw [ofTokens_append rfl inner nonempty]
    exact Misses.bind failed _
  rw [parse, scanned]
  cases outcome : ofTokens limit (front ++ [⟨.finish, "", source.length⟩]) with
  | ok expr =>
      rw [outcome] at blamed
      exact blamed.elim
  | error fault =>
      rw [outcome] at blamed
      obtain ⟨name, position, rfl⟩ := blamed
      exact ⟨_, by simp only [outcome]; rfl, rfl⟩

end Parse

end Reckoner
