import Reckoner.Proofs.Parsing.Blame
import Reckoner.Proofs.Parsing.Steps

/-!
# Parsing before and behind a token

A rule is run on two lists of tokens with a common front.  The runs agree as long as they do not
look behind the front, and once they do, their faults are about what stands there.

## Implementation notes

`Alike` compares the two outcomes.  A limit that is exceeded at the end of the front is reported at
the next token, which is the one way in which equal decisions give different outcomes.  The theorems
follow the rules and are by recursion on the front; where it is used up, `Blames` says what each run
can still do on its own.
-/

namespace Reckoner

/-- The position of the token that an error about a single token is about. -/
def SyntaxError.offending? : SyntaxError → Option Int
  | .strayClosing position => some position
  | .unexpectedToken _ _ position => some position
  | .expectedClosing _ position => some position
  | .trailingInput _ position => some position
  | .unknownName _ position => some position
  | _ => none

/-- Whether an error says that the input ended too early. -/
def SyntaxError.endsEarly : SyntaxError → Bool
  | .emptyExpression | .endOfInput .. | .endInParentheses .. | .unclosed .. => true
  | _ => false

namespace Parsing

/-- The fault of a run that has come to the given tokens: an error about a single token is about one
of them, and without tokens the input ended too early. -/
structure Late (tokens : List Token) (fault : Fault SyntaxError) : Prop where
  among : ∀ cause position, fault = .failure cause → cause.offending? = some position →
    ∃ t ∈ tokens, t.position = position
  ended : tokens = [] → ∃ cause, fault = .failure cause ∧ cause.endsEarly = true

/-- The outcome leaves a final part of the tokens or is a late fault. -/
def Within (tokens : List Token) {α : Type} {bound : Nat} : Outcome (Parsed α bound) → Prop :=
  Ensures (fun parsed => parsed.rest <:+ tokens) (Late tokens)

section Within

variable {limit finish : Int} {tokens others : List Token} {fault : Fault SyntaxError}
  {α : Type} {b : Nat} {outcome : Outcome (Parsed α b)}

theorem Late.mono (h : Late tokens fault) (final : tokens <:+ others) : Late others fault := by
  constructor
  · intro cause position failed about
    obtain ⟨t, mem, place⟩ := h.among cause position failed about
    exact ⟨t, final.subset mem, place⟩
  · rintro rfl
    exact h.ended (List.suffix_nil.1 final)

theorem Within.mono (h : Within tokens outcome) (final : tokens <:+ others) :
    Within others outcome :=
  Ensures.mono h (fun _ rest => rest.trans final) fun _ late => late.mono final

/-- An error about one of the tokens is late. -/
theorem late_of_mem {token : Token} {cause : SyntaxError} (mem : token ∈ tokens)
    (about : cause.offending? = some token.position) : Late tokens (.failure cause) := by
  constructor
  · intro other position failed about'
    cases failed
    exact ⟨token, mem, Option.some.inj (about.symm.trans about')⟩
  · intro none
    exact absurd none (List.ne_nil_of_mem mem)

/-- An error that is not about a single token is late where there are tokens. -/
theorem late_of_offending?_eq_none {cause : SyntaxError} (none : cause.offending? = none)
    (some : tokens ≠ []) : Late tokens (.failure cause) := by
  constructor
  · intro other position failed about
    cases failed
    cases none.symm.trans about
  · intro empty
    exact absurd empty some

/-- An error that the input ended is late everywhere. -/
theorem late_of_endsEarly {cause : SyntaxError} (early : cause.endsEarly = true) :
    Late tokens (.failure cause) := by
  constructor
  · intro other position failed about
    cases failed
    cases cause with
    | emptyExpression | endOfInput | endInParentheses | unclosed => cases about
    | _ => cases early
  · intro _
    exact ⟨cause, rfl, early⟩

theorem late_of_blames (h : Blames limit finish tokens fault) : Late tokens fault := by
  cases h with
  | endOfInput | endInParentheses => exact late_of_endsEarly rfl
  | strayClosing mem | unexpectedToken _ mem | expectedClosing mem | unknownName mem =>
      exact late_of_mem mem rfl
  | unclosed mem | argumentCount _ _ mem | tooDeeplyNested mem =>
      exact late_of_offending?_eq_none rfl (List.ne_nil_of_mem mem)
  | unreadable mem => exact ⟨nofun, fun none => absurd none (List.ne_nil_of_mem mem)⟩

/-- Going deeper behind a token is too deep or leaves the tokens to what follows. -/
theorem Within.inside {scope : Scope} {following : List Token} {f : Scope → Outcome (Parsed α b)}
    (some : tokens ≠ []) (next : ∀ inner, Within tokens (f inner)) :
    Within tokens (scope.inside following >>= f) := by
  unfold Scope.inside Scope.deeper
  split
  · exact late_of_offending?_eq_none rfl some
  · exact next _

theorem Invariant.Obeys.within {scope : Scope} (h : Blames.invariant.Obeys scope tokens outcome) :
    Within tokens outcome :=
  Ensures.mono h (fun _ rest => rest) fun _ => late_of_blames

/-- A parenthesis is closed by a token, or the input ends, or another token is at fault. -/
theorem late_close (opening : Int) (inner : Parsed α b) :
    Ensures (fun closed => closed.rest <:+ inner.rest ∧ inner.rest ≠ []) (Late inner.rest)
      (close opening inner) := by
  unfold close
  split
  · exact late_of_endsEarly rfl
  · rename_i token following found
    have mem : token ∈ inner.rest := found ▸ List.mem_cons_self
    split
    · exact ⟨⟨[token], found.symm⟩, List.ne_nil_of_mem mem⟩
    · exact late_of_mem mem rfl

end Within

/-- Scopes that differ in the end of the input only. -/
structure Scope.Same (scope scope' : Scope) : Prop where
  limit : scope.limit = scope'.limit
  depth : scope.depth = scope'.depth
  parentheses : scope.parentheses = scope'.parentheses

/-- What cannot stand where it does is reported without regard to what follows it. -/
theorem Scope.Same.unexpected {scope scope' : Scope} (same : scope.Same scope')
    (expected : Expectation) (token : Token) (tokens tokens' : List Token) :
    scope.unexpected expected (token :: tokens) =
      scope'.unexpected expected (token :: tokens') := by
  simp only [Scope.unexpected, same.parentheses]

/-- A rule that leaves tokens behind a front has used some of the front. -/
theorem Parsed.length_front_lt {α : Type} {us before rest : List Token} {token : Token}
    (parsed : Parsed α (us ++ rest).length) (behind : parsed.rest = token :: (before ++ rest)) :
    before.length + 1 < us.length := by
  have := parsed.rest_lt
  rw [behind] at this
  simp only [List.length_cons, List.length_append] at this
  omega

/-- The outcomes of two runs on a common front with `rest` and `rest'` behind it: the same value
with the same part of the front left over, the same fault, nesting that is too deep, or two runs
that have come to what stands behind the front. -/
inductive Alike (rest rest' : List Token) {α : Type} {b b' : Nat} :
    Outcome (Parsed α b) → Outcome (Parsed α b') → Prop
  | found {parsed parsed'} (before : List Token) : parsed.value = parsed'.value →
      parsed.rest = before ++ rest → parsed'.rest = before ++ rest' →
      Alike rest rest' (.ok parsed) (.ok parsed')
  | failed (fault) : Alike rest rest' (.error fault) (.error fault)
  | nested (limit position position' : Int) :
      Alike rest rest' (.error (.failure (.tooDeeplyNested limit position)))
        (.error (.failure (.tooDeeplyNested limit position')))
  | reached {x y} : Within rest x → Within rest' y → Alike rest rest' x y

namespace Alike

variable {rest rest' tokens tokens' : List Token} {α β : Type} {b b' c c' : Nat}
  {scope scope' : Scope}

/-- The steps behind two outcomes are compared where a part of the front is left over, and looked at
one by one where it is used up. -/
theorem bind {x : Outcome (Parsed α b)} {y : Outcome (Parsed α b')}
    {f : Parsed α b → Outcome (Parsed β c)} {g : Parsed α b' → Outcome (Parsed β c')}
    (h : Alike rest rest' x y)
    (found : ∀ parsed parsed' token before, parsed.value = parsed'.value →
      parsed.rest = token :: (before ++ rest) → parsed'.rest = token :: (before ++ rest') →
      Alike rest rest' (f parsed) (g parsed'))
    (late : ∀ parsed, Within parsed.rest (f parsed))
    (late' : ∀ parsed, Within parsed.rest (g parsed)) :
    Alike rest rest' (x >>= f) (y >>= g) := by
  cases h with
  | @found parsed parsed' before same behind behind' =>
      cases before with
      | nil =>
          exact .reached ((late parsed).mono ⟨[], behind⟩) ((late' parsed').mono ⟨[], behind'⟩)
      | cons token before => exact found _ _ token before same behind behind'
  | failed fault => exact .failed fault
  | nested limit position position' => exact .nested limit position position'
  | reached within within' =>
      exact .reached (within.and_then fun parsed final => (late parsed).mono final)
        (within'.and_then fun parsed final => (late' parsed).mono final)

/-- What is found alike may be put into larger values of which the same tokens are left. -/
theorem map {x : Outcome (Parsed α b)} {y : Outcome (Parsed α b')}
    {f : Parsed α b → Parsed β c} {g : Parsed α b' → Parsed β c'} (h : Alike rest rest' x y)
    (value : ∀ parsed parsed', parsed.value = parsed'.value → (f parsed).value = (g parsed').value)
    (left : ∀ parsed, (f parsed).rest = parsed.rest)
    (left' : ∀ parsed, (g parsed).rest = parsed.rest) :
    Alike rest rest' (x >>= fun parsed => return f parsed)
      (y >>= fun parsed => return g parsed) := by
  apply h.bind
  · intro parsed parsed' token before same behind behind'
    exact .found (token :: before) (value parsed parsed' same) ((left parsed).trans behind)
      ((left' parsed').trans behind')
  · intro parsed
    exact ⟨[], left parsed⟩
  · intro parsed
    exact ⟨[], left' parsed⟩

theorem deeper {f : Scope → Outcome (Parsed α b)} {g : Scope → Outcome (Parsed α b')}
    (same : scope.Same scope')
    (next : ∀ inner inner', Scope.Same inner inner' → Alike rest rest' (f inner) (g inner')) :
    Alike rest rest' (scope.deeper tokens >>= f) (scope'.deeper tokens' >>= g) := by
  unfold Scope.deeper
  rw [same.limit, same.depth]
  split
  · exact .nested _ _ _
  · exact next _ _ ⟨rfl, rfl, same.parentheses⟩

theorem inside {f : Scope → Outcome (Parsed α b)} {g : Scope → Outcome (Parsed α b')}
    (same : scope.Same scope')
    (next : ∀ inner inner', Scope.Same inner inner' → Alike rest rest' (f inner) (g inner')) :
    Alike rest rest' (scope.inside tokens >>= f) (scope'.inside tokens' >>= g) := by
  rw [Scope.inside, Scope.inside, bind_assoc, bind_assoc]
  apply deeper same
  intro inner inner' same
  exact next _ _ ⟨same.limit, same.depth, congrArg (· + 1) same.parentheses⟩

end Alike

/-- Arguments are counted behind a token only, so that a wrong number of them is a late fault. -/
theorem within_counted {b c : Nat} (opening position : Int) (function : Builtin)
    {wrap : Parsed (List Expr) b → Parsed Expr c}
    (left : ∀ listed, (wrap listed).rest = listed.rest) (inner : Parsed (List Expr) b) :
    Within inner.rest (do
      let listed ← close opening inner
      if listed.value.length = function.arity then
        return wrap listed
      else
        fail (.argumentCount function.name function.arity listed.value.length position)) := by
  apply (late_close opening inner).and_then
  rintro listed ⟨final, some⟩
  split
  · rw [← left] at final
    exact final
  · exact late_of_offending?_eq_none rfl some

theorem within_call (scope : Scope) (position : Int) (function : Builtin) (tokens : List Token) :
    Within tokens (call scope position function tokens) := by
  cases tokens with
  | nil =>
      rw [call]
      exact late_of_blames (blames_unexpected scope (.argumentsOf function) [])
  | cons token following =>
      rw [call]
      split
      · apply Within.inside (List.cons_ne_nil _ _)
        intro inner
        have obeys := (Blames.invariant.obeys_arguments inner following).within
        apply (obeys.mono (List.suffix_cons token _)).and_then
        intro parsed final
        exact (within_counted token.position position function (fun _ => rfl) parsed).mono final
      · exact late_of_blames (blames_unexpected scope (.argumentsOf function) _)

variable {rest rest' : List Token}

mutual

theorem alike_expression {scope scope' : Scope} (same : scope.Same scope') (us : List Token) :
    Alike rest rest' (expression scope (us ++ rest)) (expression scope' (us ++ rest')) := by
  rw [expression, expression]
  apply (alike_term same us).bind
  · intro first first' token before value behind behind'
    have shorter := first.length_front_lt behind
    exact alike_sum same value behind behind'
  · intro first
    exact (Blames.invariant.obeys_sum scope first).within
  · intro first
    exact (Blames.invariant.obeys_sum scope' first).within
termination_by (us.length, 5)

theorem alike_sum {scope scope' : Scope} (same : scope.Same scope') {b b' : Nat}
    {left : Parsed Expr b} {left' : Parsed Expr b'} {token : Token} {us : List Token}
    (value : left.value = left'.value) (behind : left.rest = token :: (us ++ rest))
    (behind' : left'.rest = token :: (us ++ rest')) :
    Alike rest rest' (sum scope left) (sum scope' left') := by
  cases kind : additive? token.kind with
  | none =>
      rw [sum_eq_ok scope (by simp [behind, kind]), sum_eq_ok scope' (by simp [behind', kind])]
      exact .found (token :: us) value behind behind'
  | some operator =>
      obtain ⟨join, joined, step⟩ := sum_eq_bind scope behind kind
      obtain ⟨join', joined', step'⟩ := sum_eq_bind scope' behind' kind
      rw [step, step']
      apply (alike_term same us).bind
      · intro right right' next before equal after after'
        have shorter := right.length_front_lt after
        apply alike_sum same
        · rw [(joined right).1, (joined' right').1, value, equal]
        · exact (joined right).2.trans after
        · exact (joined' right').2.trans after'
      · intro right
        exact (joined right).2 ▸ (Blames.invariant.obeys_sum scope (join right)).within
      · intro right
        exact (joined' right).2 ▸ (Blames.invariant.obeys_sum scope' (join' right)).within
termination_by (us.length + 1, 0)

theorem alike_term {scope scope' : Scope} (same : scope.Same scope') (us : List Token) :
    Alike rest rest' (term scope (us ++ rest)) (term scope' (us ++ rest')) := by
  rw [term, term]
  apply (alike_factor same us).bind
  · intro first first' token before value behind behind'
    have shorter := first.length_front_lt behind
    exact alike_product same value behind behind'
  · intro first
    exact (Blames.invariant.obeys_product scope first).within
  · intro first
    exact (Blames.invariant.obeys_product scope' first).within
termination_by (us.length, 4)

theorem alike_product {scope scope' : Scope} (same : scope.Same scope') {b b' : Nat}
    {left : Parsed Expr b} {left' : Parsed Expr b'} {token : Token} {us : List Token}
    (value : left.value = left'.value) (behind : left.rest = token :: (us ++ rest))
    (behind' : left'.rest = token :: (us ++ rest')) :
    Alike rest rest' (product scope left) (product scope' left') := by
  cases kind : multiplicative? token.kind with
  | none =>
      rw [product_eq_ok scope (by simp [behind, kind]),
        product_eq_ok scope' (by simp [behind', kind])]
      exact .found (token :: us) value behind behind'
  | some operator =>
      obtain ⟨join, joined, step⟩ := product_eq_bind scope behind kind
      obtain ⟨join', joined', step'⟩ := product_eq_bind scope' behind' kind
      rw [step, step']
      apply (alike_factor same us).bind
      · intro right right' next before equal after after'
        have shorter := right.length_front_lt after
        apply alike_product same
        · rw [(joined right).1, (joined' right').1, value, equal]
        · exact (joined right).2.trans after
        · exact (joined' right').2.trans after'
      · intro right
        exact (joined right).2 ▸ (Blames.invariant.obeys_product scope (join right)).within
      · intro right
        exact (joined' right).2 ▸ (Blames.invariant.obeys_product scope' (join' right)).within
termination_by (us.length + 1, 0)

theorem alike_factor {scope scope' : Scope} (same : scope.Same scope') (us : List Token) :
    Alike rest rest' (factor scope (us ++ rest)) (factor scope' (us ++ rest')) := by
  match us with
  | [] =>
      exact .reached (Blames.invariant.obeys_factor scope rest).within
        (Blames.invariant.obeys_factor scope' rest').within
  | token :: us =>
      show Alike rest rest' (factor scope (token :: (us ++ rest)))
        (factor scope' (token :: (us ++ rest')))
      rw [factor, factor]
      split
      · apply Alike.deeper same
        intro deeper deeper' same
        apply (alike_factor same us).map
        · intro operand operand' value
          exact congrArg Expr.negate value
        · intro operand
          rfl
        · intro operand
          rfl
      · exact alike_power same (token :: us)
termination_by (us.length, 3)

theorem alike_power {scope scope' : Scope} (same : scope.Same scope') (us : List Token) :
    Alike rest rest' (power scope (us ++ rest)) (power scope' (us ++ rest')) := by
  rw [power_eq_bind, power_eq_bind]
  apply (alike_operand same us).bind
  · intro base base' token before value behind behind'
    have shorter := base.length_front_lt behind
    by_cases kind : token.kind = .caret
    · obtain ⟨raised, made, step⟩ := raise_eq_bind scope behind kind
      obtain ⟨raised', made', step'⟩ := raise_eq_bind scope' behind' kind
      rw [step, step']
      apply Alike.deeper same
      intro deeper deeper' same
      apply (alike_factor same before).map
      · intro exponent exponent' equal
        rw [(made exponent).1, (made' exponent').1, value, equal]
      · intro exponent
        exact (made exponent).2
      · intro exponent
        exact (made' exponent).2
    · rw [raise_eq_ok scope (by simp [behind, kind]), raise_eq_ok scope' (by simp [behind', kind])]
      exact .found (token :: before) value behind behind'
  · intro base
    exact (Blames.invariant.obeys_raise scope base).within
  · intro base
    exact (Blames.invariant.obeys_raise scope' base).within
termination_by (us.length, 2)

theorem alike_operand {scope scope' : Scope} (same : scope.Same scope') (us : List Token) :
    Alike rest rest' (operand scope (us ++ rest)) (operand scope' (us ++ rest')) := by
  match us with
  | [] =>
      exact .reached (Blames.invariant.obeys_operand scope rest).within
        (Blames.invariant.obeys_operand scope' rest').within
  | token :: us =>
      show Alike rest rest' (operand scope (token :: (us ++ rest)))
        (operand scope' (token :: (us ++ rest')))
      rw [operand, operand]
      split
      · split
        · exact .found us rfl rfl rfl
        · exact .failed _
      · apply Alike.inside same
        intro inner inner' same
        apply (alike_expression same us).bind
        · intro parsed parsed' right before value behind behind'
          obtain ⟨fewer, step⟩ := close_eq_ite token.position behind
          obtain ⟨fewer', step'⟩ := close_eq_ite token.position behind'
          rw [step, step']
          split
          · exact .found before value rfl rfl
          · exact .failed _
        · intro parsed
          apply (late_close token.position parsed).and_then
          intro grouped after
          exact after.1
        · intro parsed
          apply (late_close token.position parsed).and_then
          intro grouped after
          exact after.1
      · split
        · apply (alike_call same token.position _ us).map
          · intro called called' value
            exact value
          · intro called
            rfl
          · intro called
            rfl
        · split
          · exact .found us rfl rfl rfl
          · exact .failed _
      · rw [same.unexpected]
        exact .failed _
termination_by (us.length, 1)

theorem alike_call {scope scope' : Scope} (same : scope.Same scope') (position : Int)
    (function : Builtin) (us : List Token) :
    Alike rest rest' (call scope position function (us ++ rest))
      (call scope' position function (us ++ rest')) := by
  match us with
  | [] => exact .reached (within_call ..) (within_call ..)
  | token :: us =>
      show Alike rest rest' (call scope position function (token :: (us ++ rest)))
        (call scope' position function (token :: (us ++ rest')))
      rw [call, call]
      split
      · apply Alike.inside same
        intro inner inner' same
        apply (alike_arguments same us).bind
        · intro parsed parsed' right before value behind behind'
          obtain ⟨fewer, step⟩ := close_eq_ite token.position behind
          obtain ⟨fewer', step'⟩ := close_eq_ite token.position behind'
          rw [step, step']
          split
          · simp only [bind, Except.bind, value]
            split
            · exact .found before rfl rfl rfl
            · exact .failed _
          · exact .failed _
        · intro parsed
          exact within_counted token.position position function (fun _ => rfl) parsed
        · intro parsed
          exact within_counted token.position position function (fun _ => rfl) parsed
      · rw [same.unexpected]
        exact .failed _
termination_by (us.length, 0)

theorem alike_arguments {scope scope' : Scope} (same : scope.Same scope') (us : List Token) :
    Alike rest rest' (arguments scope (us ++ rest)) (arguments scope' (us ++ rest')) := by
  match us with
  | [] =>
      exact .reached (Blames.invariant.obeys_arguments scope rest).within
        (Blames.invariant.obeys_arguments scope' rest').within
  | token :: us =>
      show Alike rest rest' (arguments scope (token :: (us ++ rest)))
        (arguments scope' (token :: (us ++ rest')))
      rw [arguments, arguments]
      by_cases kind : token.kind = .rightParen
      · rw [if_pos (by simp [kind]), if_pos (by simp [kind])]
        exact .found (token :: us) rfl rfl rfl
      · rw [if_neg (by simp [kind]), if_neg (by simp [kind])]
        apply (alike_expression same (token :: us)).bind
        · intro first first' next before value behind behind'
          have shorter := first.length_front_lt behind
          exact alike_furtherArguments same (congrArg (fun e => [e]) value) behind behind'
        · intro first
          exact (Blames.invariant.obeys_furtherArguments scope _).within
        · intro first
          exact (Blames.invariant.obeys_furtherArguments scope' _).within
termination_by (us.length, 6)

theorem alike_furtherArguments {scope scope' : Scope} (same : scope.Same scope') {b b' : Nat}
    {found : Parsed (List Expr) b} {found' : Parsed (List Expr) b'} {token : Token}
    {us : List Token} (value : found.value = found'.value)
    (behind : found.rest = token :: (us ++ rest)) (behind' : found'.rest = token :: (us ++ rest')) :
    Alike rest rest' (furtherArguments scope found) (furtherArguments scope' found') := by
  by_cases kind : token.kind = .comma
  · obtain ⟨extend, extended, step⟩ := furtherArguments_eq_bind scope behind kind
    obtain ⟨extend', extended', step'⟩ := furtherArguments_eq_bind scope' behind' kind
    rw [step, step']
    apply (alike_expression same us).bind
    · intro next next' token before equal after after'
      have shorter := next.length_front_lt after
      apply alike_furtherArguments same
      · rw [(extended next).1, (extended' next').1, value, equal]
      · exact (extended next).2.trans after
      · exact (extended' next').2.trans after'
    · intro next
      exact (extended next).2 ▸ (Blames.invariant.obeys_furtherArguments scope (extend next)).within
    · intro next
      exact (extended' next).2 ▸
        (Blames.invariant.obeys_furtherArguments scope' (extend' next)).within
  · rw [furtherArguments_eq_ok scope (by simp [behind, kind]),
      furtherArguments_eq_ok scope' (by simp [behind', kind])]
    exact .found (token :: us) (congrArg List.reverse value) behind behind'
termination_by (us.length + 1, 0)

end

end Parsing

end Reckoner
