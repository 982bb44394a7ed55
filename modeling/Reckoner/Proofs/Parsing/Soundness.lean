import Reckoner.Expr.Grammar
import Reckoner.Proofs.Builtin
import Reckoner.Proofs.Parsing.Scope

/-!
# What a rule parses is derived by the grammar

Every rule either consumes tokens that derive the tree it returns, with nesting for which its scope
has room, or stops for a syntax error; it stops for misuse only at a numeral that cannot be read.

## Implementation notes

The rules call each other in a cycle, and so do the theorems, along the same measure.  A loop is
described by what it adds: whatever derives the tree at its start derives, with the consumed tokens
behind it, the tree at its end.
-/

namespace Reckoner

open Parsing

variable {token : Token} {operator : Operator} {m n : Nat} {ts us : List Token} {l r : Expr}

theorem Derives.additive (h : additive? token.kind = some operator)
    (left : Derives .expression m ts l) (right : Derives .term n us r) :
    Derives .expression (max m n) (ts ++ token :: us) (.binary operator l r) := by
  cases kind : token.kind <;> simp only [kind, additive?, Option.some.injEq, reduceCtorEq] at h
  · exact h ▸ .add left kind right
  · exact h ▸ .sub left kind right

theorem Derives.multiplicative (h : multiplicative? token.kind = some operator)
    (left : Derives .term m ts l) (right : Derives .factor n us r) :
    Derives .term (max m n) (ts ++ token :: us) (.binary operator l r) := by
  cases kind : token.kind <;>
    simp only [kind, multiplicative?, Option.some.injEq, reduceCtorEq] at h
  · exact h ▸ .mul left kind right
  · exact h ▸ .div left kind right

namespace Parsing

/-- The faults that tokens account for: any syntax error, and misuse when a numeral among them
cannot be read. -/
def FaultOf (tokens : List Token) (fault : Fault SyntaxError) : Prop :=
  ∀ cause, fault = .misuse cause →
    ∃ token ∈ tokens, token.kind = .number ∧ Decimal.readNumber? token.text = none

theorem FaultOf.of_failure {tokens : List Token} {fault : Fault SyntaxError}
    (h : ∃ cause, fault = .failure cause) : FaultOf tokens fault := by
  obtain ⟨cause, rfl⟩ := h
  intro _ h
  cases h

/-- What some tokens account for, they account for behind others. -/
theorem FaultOf.append {tokens : List Token} {fault : Fault SyntaxError} (h : FaultOf tokens fault)
    (before : List Token) : FaultOf (before ++ tokens) fault := by
  intro cause hc
  obtain ⟨token, mem, unreadable⟩ := h cause hc
  exact ⟨token, List.mem_append_right before mem, unreadable⟩

theorem FaultOf.cons {tokens : List Token} {fault : Fault SyntaxError} (h : FaultOf tokens fault)
    (token : Token) : FaultOf (token :: tokens) fault := h.append [token]

/-- A parenthesis is closed by the next token. -/
theorem ensures_close {α : Type} {bound : Nat} (opening : Int) (inner : Parsed α bound) :
    Ensures (fun closed => closed.value = inner.value ∧
        ∃ right, right.kind = .rightParen ∧ inner.rest = right :: closed.rest)
      (fun fault => ∃ cause, fault = .failure cause) (close opening inner) := by
  unfold close
  split
  · exact ⟨_, rfl⟩
  · rename_i token following rest
    split
    · rename_i kind
      exact ⟨rfl, token, kind, rest⟩
    · exact ⟨_, rfl⟩

section Spec

variable {rule : Rule} {scope : Scope} {bound : Nat} {left next : Parsed Expr bound}
  {outcome : Outcome (Parsed Expr bound)}

/-- The outcome of a rule on tokens: they start with a phrase for its tree, or account for its
fault. -/
def Recognises (rule : Rule) (scope : Scope) (tokens : List Token) {bound : Nat} :
    Outcome (Parsed Expr bound) → Prop :=
  Ensures (fun parsed => ∃ n consumed, tokens = consumed ++ parsed.rest ∧
    Derives rule n consumed parsed.value ∧ scope.Fits n) (FaultOf tokens)

/-- The outcome of a loop behind the tree found so far: any phrase for that tree extends to a phrase
for the returned one. -/
def Extends (rule : Rule) (scope : Scope) {bound : Nat} (left : Parsed Expr bound) :
    Outcome (Parsed Expr bound) → Prop :=
  Ensures (fun parsed => ∃ consumed, left.rest = consumed ++ parsed.rest ∧
    ∀ m before, Derives rule m before left.value → scope.Fits m →
      ∃ n, Derives rule n (before ++ consumed) parsed.value ∧ scope.Fits n) (FaultOf left.rest)

theorem Extends.refl : Extends rule scope left (.ok left) := by
  refine ⟨[], rfl, fun m before derived fits => ⟨m, ?_, fits⟩⟩
  rwa [List.append_nil]

/-- A loop behind the phrase that a tighter rule has found. -/
theorem Extends.recognises (h : Extends rule scope left outcome) {m : Nat}
    {tokens before : List Token} (whole : tokens = before ++ left.rest)
    (derived : Derives rule m before left.value) (fits : scope.Fits m) :
    Recognises rule scope tokens outcome := by
  refine h.mono ?_ fun fault blamed => whole ▸ blamed.append before
  rintro parsed ⟨consumed, rest, extended⟩
  obtain ⟨n, joined, room⟩ := extended m before derived fits
  exact ⟨n, before ++ consumed, by rw [whole, rest, List.append_assoc], joined, room⟩

/-- A loop that goes round: an operator and its right operand are consumed in front of the rest. -/
theorem Extends.step (h : Extends rule scope next outcome) {token : Token}
    {following consumed : List Token} (rest : left.rest = token :: following)
    (whole : following = consumed ++ next.rest)
    (grow : ∀ m before, Derives rule m before left.value → scope.Fits m →
      ∃ n, Derives rule n (before ++ token :: consumed) next.value ∧ scope.Fits n) :
    Extends rule scope left outcome := by
  apply h.mono
  · rintro parsed ⟨later, behind, extended⟩
    refine ⟨token :: consumed ++ later, by simp [rest, whole, behind], ?_⟩
    intro m before derived fits
    obtain ⟨k, grown, room⟩ := grow m before derived fits
    obtain ⟨n, joined, rooms⟩ := extended k _ grown room
    refine ⟨n, ?_, rooms⟩
    rwa [List.append_assoc] at joined
  · intro fault blamed
    rw [rest, whole]
    exact (blamed.append consumed).cons token

end Spec

mutual

theorem recognises_expression (scope : Scope) (tokens : List Token) :
    Recognises .expression scope tokens (expression scope tokens) := by
  rw [expression]
  apply (recognises_term scope tokens).and_then
  rintro first ⟨m, before, whole, derived, fits⟩
  have := first.rest_lt
  exact (extends_sum scope first).recognises whole (.term derived) fits
termination_by (tokens.length, 5)

theorem extends_sum (scope : Scope) {bound : Nat} (left : Parsed Expr bound) :
    Extends .expression scope left (sum scope left) := by
  rw [sum]
  split
  · exact .refl
  · rename_i token following rest
    have fewer : following.length < left.rest.length := by simp [rest]
    split
    · exact .refl
    · rename_i operator kind
      refine (recognises_term scope following).bind ?_ fun _ blamed => rest ▸ blamed.cons token
      rintro right ⟨n, consumed, whole, derived, fits⟩
      have shorter := Nat.lt_trans right.rest_lt fewer
      refine (extends_sum scope _).step rest whole ?_
      intro m before joined room
      exact ⟨max m n, .additive kind joined derived, Scope.fits_max.2 ⟨room, fits⟩⟩
termination_by (left.rest.length, 0)

theorem recognises_term (scope : Scope) (tokens : List Token) :
    Recognises .term scope tokens (term scope tokens) := by
  rw [term]
  apply (recognises_factor scope tokens).and_then
  rintro first ⟨m, before, whole, derived, fits⟩
  have := first.rest_lt
  exact (extends_product scope first).recognises whole (.factor derived) fits
termination_by (tokens.length, 4)

theorem extends_product (scope : Scope) {bound : Nat} (left : Parsed Expr bound) :
    Extends .term scope left (product scope left) := by
  rw [product]
  split
  · exact .refl
  · rename_i token following rest
    have fewer : following.length < left.rest.length := by simp [rest]
    split
    · exact .refl
    · rename_i operator kind
      refine (recognises_factor scope following).bind ?_ fun _ blamed => rest ▸ blamed.cons token
      rintro right ⟨n, consumed, whole, derived, fits⟩
      have shorter := Nat.lt_trans right.rest_lt fewer
      refine (extends_product scope _).step rest whole ?_
      intro m before joined room
      exact ⟨max m n, .multiplicative kind joined derived, Scope.fits_max.2 ⟨room, fits⟩⟩
termination_by (left.rest.length, 0)

theorem recognises_factor (scope : Scope) (tokens : List Token) :
    Recognises .factor scope tokens (factor scope tokens) := by
  match tokens with
  | [] =>
      rw [factor]
      exact (recognises_power scope []).mono (fun _ ⟨n, consumed, whole, derived, fits⟩ =>
        ⟨n, consumed, whole, .power derived, fits⟩) fun _ blamed => blamed
  | token :: following =>
      rw [factor]
      split
      · rename_i kind
        refine (scope.ensures_deeper following).bind ?_ fun _ fault => .of_failure fault
        intro deeper room
        refine (recognises_factor deeper following).bind ?_ fun _ blamed => blamed.cons token
        rintro operand ⟨n, consumed, whole, derived, fits⟩
        exact ⟨n + 1, token :: consumed, congrArg (token :: ·) whole, .negate kind derived,
          room n fits⟩
      · exact (recognises_power scope (token :: following)).mono
          (fun _ ⟨n, consumed, whole, derived, fits⟩ =>
            ⟨n, consumed, whole, .power derived, fits⟩) fun _ blamed => blamed
termination_by (tokens.length, 3)

theorem recognises_power (scope : Scope) (tokens : List Token) :
    Recognises .power scope tokens (power scope tokens) := by
  rw [power]
  apply (recognises_operand scope tokens).and_then
  rintro base ⟨m, before, whole, derived, fits⟩
  split
  · exact ⟨m, before, whole, .operand derived, fits⟩
  · rename_i token following rest
    have shorter : following.length < tokens.length := by
      have := base.rest_lt; rw [rest, List.length_cons] at this; omega
    split
    · rename_i kind
      have blamed {fault : Fault SyntaxError} (h : FaultOf following fault) :
          FaultOf tokens fault := by
        rw [whole, rest]
        exact (h.cons token).append before
      refine (scope.ensures_deeper following).bind ?_ fun _ fault => .of_failure fault
      intro deeper room
      refine (recognises_factor deeper following).bind ?_ fun _ => blamed
      rintro exponent ⟨n, consumed, behind, raised, below⟩
      refine ⟨max m (n + 1), before ++ token :: consumed, ?_, .raise derived kind raised,
        Scope.fits_max.2 ⟨fits, room n below⟩⟩
      calc tokens
        _ = before ++ token :: following := rest ▸ whole
        _ = before ++ token :: (consumed ++ exponent.rest) := by rw [← behind]
        _ = before ++ token :: consumed ++ exponent.rest := by simp
    · exact ⟨m, before, whole, .operand derived, fits⟩
termination_by (tokens.length, 2)

theorem recognises_operand (scope : Scope) (tokens : List Token) :
    Recognises .operand scope tokens (operand scope tokens) := by
  match tokens with
  | [] =>
      rw [operand]
      exact .of_failure ⟨_, rfl⟩
  | token :: following =>
      rw [operand]
      split
      · rename_i kind
        split
        · rename_i value read
          exact ⟨0, [token], rfl, .number kind read, scope.fits_zero⟩
        · rename_i unreadable
          intro cause _
          exact ⟨token, List.mem_cons_self, kind, unreadable⟩
      · rename_i kind
        refine (scope.ensures_inside following).bind ?_ fun _ fault => .of_failure fault
        intro inner room
        refine (recognises_expression inner following).bind ?_ fun _ blamed => blamed.cons token
        rintro parsed ⟨n, consumed, whole, derived, fits⟩
        refine (ensures_close token.position parsed).bind ?_ fun _ fault => .of_failure fault
        rintro grouped ⟨same, right, closing, rest⟩
        refine ⟨n + 1, token :: (consumed ++ [right]), ?_, ?_, room n fits⟩
        · calc token :: following
            _ = token :: (consumed ++ right :: grouped.rest) := by rw [← rest, ← whole]
            _ = token :: (consumed ++ [right]) ++ grouped.rest := by simp
        · exact same ▸ .group kind derived closing
      · rename_i kind
        split
        · rename_i function known
          refine (ensures_call scope token.position function following).bind ?_
            fun _ blamed => blamed.cons token
          rintro called ⟨n, consumed, whole, derived, fits⟩
          exact ⟨n, token :: consumed, congrArg (token :: ·) whole,
            derived token kind (Builtin.name_eq_of_ofName? known).symm, fits⟩
        · split
          · rename_i constant known
            exact ⟨0, [token], rfl,
              .constant constant kind (Constant.name_eq_of_ofName? known).symm, scope.fits_zero⟩
          · exact .of_failure ⟨_, rfl⟩
      · exact .of_failure ⟨_, rfl⟩
termination_by (tokens.length, 1)

/-- The arguments complete any name of the function to a call of it. -/
theorem ensures_call (scope : Scope) (position : Int) (function : Builtin) (tokens : List Token) :
    Ensures (fun parsed => ∃ n consumed, tokens = consumed ++ parsed.rest ∧
        (∀ name : Token, name.kind = .name → name.text = function.name →
          Derives .operand n (name :: consumed) parsed.value) ∧ scope.Fits n)
      (FaultOf tokens) (call scope position function tokens) := by
  match tokens with
  | [] =>
      rw [call]
      exact .of_failure ⟨_, rfl⟩
  | token :: following =>
      rw [call]
      split
      · rename_i kind
        refine (scope.ensures_inside following).bind ?_ fun _ fault => .of_failure fault
        intro inner room
        refine (ensures_arguments inner following).bind ?_ fun _ blamed => blamed.cons token
        rintro parsed ⟨n, consumed, whole, derived, fits⟩
        refine (ensures_close token.position parsed).bind ?_ fun _ fault => .of_failure fault
        rintro listed ⟨same, right, closing, rest⟩
        split
        · rename_i count
          refine ⟨n + 1, token :: (consumed ++ [right]), ?_, ?_, room n fits⟩
          · calc token :: following
              _ = token :: (consumed ++ right :: listed.rest) := by rw [← rest, ← whole]
              _ = token :: (consumed ++ [right]) ++ listed.rest := by simp
          · intro name named spelled
            rw [same] at count ⊢
            exact .call function named spelled kind (derived (function.ne_nil_of_length_eq count))
              closing count
        · exact .of_failure ⟨_, rfl⟩
      · exact .of_failure ⟨_, rfl⟩
termination_by (tokens.length, 0)

/-- Arguments are derived unless there are none, which the grammar does not know. -/
theorem ensures_arguments (scope : Scope) (tokens : List Token) :
    Ensures (fun parsed => ∃ n consumed, tokens = consumed ++ parsed.rest ∧
        (parsed.value ≠ [] → DerivesAll n consumed parsed.value) ∧ scope.Fits n)
      (FaultOf tokens) (arguments scope tokens) := by
  rw [arguments]
  split
  · exact ⟨0, [], rfl, fun nonempty => absurd rfl nonempty, scope.fits_zero⟩
  · apply (recognises_expression scope tokens).and_then
    rintro first ⟨m, before, whole, derived, fits⟩
    have := first.rest_lt
    apply (ensures_furtherArguments scope _).mono
    · rintro parsed ⟨n, consumed, es, rest, value, extended, room⟩
      refine ⟨max m n, before ++ consumed, ?_, ?_, Scope.fits_max.2 ⟨fits, room⟩⟩
      · calc tokens
          _ = before ++ (consumed ++ parsed.rest) := rest ▸ whole
          _ = before ++ consumed ++ parsed.rest := (List.append_assoc ..).symm
      · intro _
        rw [value]
        exact extended m before first.value derived
    · intro fault blamed
      rw [whole]
      exact blamed.append before
termination_by (tokens.length, 6)

/-- The arguments behind the first one complete any phrase for it to a list of arguments. -/
theorem ensures_furtherArguments (scope : Scope) {bound : Nat} (found : Parsed (List Expr) bound) :
    Ensures (fun parsed => ∃ n consumed es, found.rest = consumed ++ parsed.rest ∧
        parsed.value = found.value.reverse ++ es ∧
        (∀ m before e, Derives .expression m before e →
          DerivesAll (max m n) (before ++ consumed) (e :: es)) ∧ scope.Fits n)
      (FaultOf found.rest) (furtherArguments scope found) := by
  have stop : ∀ m before e, Derives .expression m before e →
      DerivesAll (max m 0) (before ++ []) [e] := by
    intro m before e derived
    simpa using DerivesAll.one derived
  rw [furtherArguments]
  split
  · exact ⟨0, [], [], rfl, by simp, stop, scope.fits_zero⟩
  · rename_i token following rest
    have fewer : following.length < found.rest.length := by simp [rest]
    split
    · rename_i kind
      refine (recognises_expression scope following).bind ?_
        fun _ blamed => rest ▸ blamed.cons token
      rintro next ⟨k, ts, whole, derived, fits⟩
      have shorter := Nat.lt_trans next.rest_lt fewer
      apply (ensures_furtherArguments scope _).mono
      · rintro parsed ⟨n, consumed, es, behind, value, extended, room⟩
        refine ⟨max k n, token :: (ts ++ consumed), next.value :: es, ?_, ?_, ?_,
          Scope.fits_max.2 ⟨fits, room⟩⟩
        · calc found.rest
            _ = token :: (ts ++ (consumed ++ parsed.rest)) := by rw [rest, ← behind, ← whole]
            _ = token :: (ts ++ consumed) ++ parsed.rest := by simp
        · simpa using value
        · intro m before e listed
          exact .more listed kind (extended k ts next.value derived)
      · intro fault blamed
        rw [rest, whole]
        exact (blamed.append ts).cons token
    · exact ⟨0, [], [], rfl, by simp, stop, scope.fits_zero⟩
termination_by (found.rest.length, 0)

end

end Parsing

end Reckoner
