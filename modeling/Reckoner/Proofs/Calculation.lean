import Reckoner.Calculation
import Reckoner.Proofs.Decimal.Reading
import Reckoner.Proofs.Expr.WellFormed
import Reckoner.Proofs.Parsing.Grammar
import Reckoner.Proofs.Token.Spelling

/-!
# How a calculation can end

A calculation ends with a number or with a failure, and the phase that stops it determines the kinds
of failure.  No phase hands a later one anything that it is not made for: what scanning produces is
readable and ended by a token, and what parsing produces is well formed.
-/

namespace Reckoner

open Token

namespace Kind

/-- The kinds of failure of a text that does not split into tokens. -/
def lexical : List Kind := [.unexpectedCharacter, .malformedNumber]

/-- The kinds of failure of tokens that are no expression. -/
def syntactic : List Kind :=
  [.emptyExpression, .unmatchedParenthesis, .trailingInput, .unknownFunction, .arityMismatch,
    .incompleteExpression, .unexpectedToken, .tooDeeplyNested]

/-- The kinds of failure of operations on numbers. -/
def arithmetical : List Kind := [.domainError, .divisionByZero]

end Kind

theorem LexicalError.kind_mem (cause : LexicalError) : cause.kind ∈ Kind.lexical := by
  cases cause <;> simp [LexicalError.kind, Kind.lexical]

theorem SyntaxError.kind_mem (cause : SyntaxError) : cause.kind ∈ Kind.syntactic := by
  cases cause <;> simp [SyntaxError.kind, Kind.syntactic]

theorem Arithmetical.kind_mem {cause : EvaluationError} (h : Arithmetical (.failure cause)) :
    cause.kind ∈ Kind.arithmetical := by
  cases h <;> simp [EvaluationError.kind, Kind.arithmetical]

theorem Arithmetical.exists_cause {fault : Fault EvaluationError} (h : Arithmetical fault) :
    ∃ cause, fault = .failure cause := by
  cases h <;> exact ⟨_, rfl⟩

section Scanned

variable {source : String} {tokens : List Token} {limit : Int}

theorem Token.readable_of_isLexeme {token : Token} (h : IsLexeme token.kind token.text.toList) :
    token.Readable := by
  intro kind
  rw [kind] at h
  cases h with
  | number numeral =>
      obtain ⟨decimal, _, read⟩ := Decimal.readNumber?_of_isNumeral numeral
      rw [String.ofList_toList] at read
      exact ⟨_, read, Decimal.isNaN_toBinary64⟩

/-- The tokens of a text are parsed as a well-formed tree, or they contain a syntax error. -/
theorem ensures_ofTokens_of_scan (h : scan source = .ok tokens) :
    Ensures Expr.WellFormed (fun fault => ∃ cause, fault = .failure cause)
      (Expr.ofTokens limit tokens) := by
  obtain ⟨front, rfl, lexemes⟩ := eq_append_of_scan h
  have readable : ∀ token ∈ front, token.Readable :=
    fun token mem => readable_of_isLexeme (lexemes token mem)
  have inner : ∀ token ∈ front, token.kind ≠ .finish :=
    fun token mem => ne_finish_of_isLexeme (lexemes token mem)
  apply (Expr.ensures_ofTokens rfl inner).mono
  · rintro expr ⟨n, derived, _⟩
    exact Expr.wellFormed_of_derives derived readable
  · intro fault blamed
    cases fault with
    | failure cause => exact ⟨cause, rfl⟩
    | misuse cause =>
        obtain ⟨token, mem, kind, unreadable⟩ := blamed cause rfl
        obtain ⟨x, read, _⟩ := readable token mem kind
        cases unreadable.symm.trans read

end Scanned

section Calculate

variable {context : Context} {source : String} {tokens : List Token} {expr : Expr}

theorem calculate_of_scan_error {cause : LexicalError} (h : scan source = .error cause) :
    calculate context source = .error (.failure (.lexical cause)) := by
  unfold calculate Expr.parse
  rw [h]
  rfl

theorem calculate_of_scan (h : scan source = .ok tokens) :
    calculate context source = calculateTokens context tokens := by
  unfold calculate Expr.parse
  rw [h]
  rfl

theorem calculateTokens_of_error {fault : Fault SyntaxError}
    (h : Expr.ofTokens context.settings.maxDepth tokens = .error fault) :
    calculateTokens context tokens = .error (fault.map .syntactic) := by
  rw [calculateTokens, h]
  rfl

theorem calculateTokens_of_ok (h : Expr.ofTokens context.settings.maxDepth tokens = .ok expr) :
    calculateTokens context tokens =
      (expr.meaning context).mapError (Fault.map .evaluation) := by
  rw [calculateTokens, h, ← Expr.evaluateChain_nil]
  rfl

/-- A calculation does not depend on the elementary functions outside their domains. -/
theorem calculate_congr {f g : Elementary} {settings : Settings} (agree : f.Agree g) :
    calculate ⟨f, settings⟩ source = calculate ⟨g, settings⟩ source := by
  cases scanned : scan source with
  | error cause => rw [calculate_of_scan_error scanned, calculate_of_scan_error scanned]
  | ok tokens =>
      have sound : Ensures _ _ (Expr.ofTokens settings.maxDepth tokens) :=
        ensures_ofTokens_of_scan scanned
      rw [calculate_of_scan scanned, calculate_of_scan scanned]
      cases parsed : Expr.ofTokens settings.maxDepth tokens with
      | error fault => rw [calculateTokens_of_error parsed, calculateTokens_of_error parsed]
      | ok expr =>
          rw [parsed] at sound
          rw [calculateTokens_of_ok parsed, calculateTokens_of_ok parsed,
            Expr.WellFormed.meaning_congr agree sound]

/-- Where parsing fails, a calculation fails for the same syntactic cause. -/
theorem calculate_of_unparsed {fault : Fault SyntaxError} (scanned : scan source = .ok tokens)
    (unparsed : Expr.ofTokens context.settings.maxDepth tokens = .error fault) :
    ∃ cause, fault = .failure cause ∧
      calculate context source = .error (.failure (.syntactic cause)) := by
  have sound : Ensures _ _ (Expr.ofTokens context.settings.maxDepth tokens) :=
    ensures_ofTokens_of_scan scanned
  rw [unparsed] at sound
  obtain ⟨cause, rfl⟩ := sound
  refine ⟨cause, rfl, ?_⟩
  rw [calculate_of_scan scanned, calculateTokens_of_error unparsed]
  rfl

/-- Where parsing succeeds, a calculation has a number for its value or fails for a reason of
arithmetic. -/
theorem calculate_of_parsed (scanned : scan source = .ok tokens)
    (parsed : Expr.ofTokens context.settings.maxDepth tokens = .ok expr) :
    (∃ x, calculate context source = .ok x ∧ x.isNaN = false) ∨
      ∃ cause, calculate context source = .error (.failure (.evaluation cause)) ∧
        cause.kind ∈ Kind.arithmetical := by
  have wellFormed : Ensures _ _ (Expr.ofTokens context.settings.maxDepth tokens) :=
    ensures_ofTokens_of_scan scanned
  rw [parsed] at wellFormed
  have sound : Ensures _ _ (expr.meaning context) := Expr.WellFormed.ensures_meaning wellFormed
  rw [calculate_of_scan scanned, calculateTokens_of_ok parsed]
  cases outcome : expr.meaning context with
  | ok x =>
      rw [outcome] at sound
      exact .inl ⟨x, rfl, sound⟩
  | error fault =>
      rw [outcome] at sound
      obtain ⟨cause, rfl⟩ := Arithmetical.exists_cause sound
      exact .inr ⟨cause, rfl, Arithmetical.kind_mem sound⟩

/-- The phase that stops a calculation tells what the failure is. -/
theorem calculate_failed {fault : Fault Failure}
    (failed : calculate context source = .error fault) :
    (∃ cause, scan source = .error cause ∧ fault = .failure (.lexical cause)) ∨
      (∃ tokens cause, scan source = .ok tokens ∧
        Expr.ofTokens context.settings.maxDepth tokens = .error (.failure cause) ∧
        fault = .failure (.syntactic cause)) ∨
      ∃ cause, cause.kind ∈ Kind.arithmetical ∧ fault = .failure (.evaluation cause) := by
  cases scanned : scan source with
  | error cause =>
      cases (calculate_of_scan_error scanned).symm.trans failed
      exact .inl ⟨cause, rfl, rfl⟩
  | ok tokens =>
      cases parsed : Expr.ofTokens context.settings.maxDepth tokens with
      | error fault =>
          obtain ⟨cause, rfl, outcome⟩ := calculate_of_unparsed scanned parsed
          cases outcome.symm.trans failed
          exact .inr (.inl ⟨tokens, cause, rfl, parsed, rfl⟩)
      | ok expr =>
          rcases calculate_of_parsed scanned parsed with ⟨x, outcome, _⟩ | ⟨cause, outcome, kind⟩
          · cases outcome.symm.trans failed
          · cases outcome.symm.trans failed
            exact .inr (.inr ⟨cause, kind, rfl⟩)

theorem ensures_calculate :
    Ensures (·.isNaN = false) (fun fault => ∃ cause, fault = .failure cause)
      (calculate context source) := by
  cases scanned : scan source with
  | error cause =>
      rw [calculate_of_scan_error scanned]
      exact ⟨_, rfl⟩
  | ok tokens =>
      cases parsed : Expr.ofTokens context.settings.maxDepth tokens with
      | error fault =>
          obtain ⟨cause, _, outcome⟩ := calculate_of_unparsed scanned parsed
          rw [outcome]
          exact ⟨_, rfl⟩
      | ok expr =>
          rcases calculate_of_parsed scanned parsed with ⟨x, outcome, real⟩ | ⟨_, outcome, _⟩
          · rw [outcome]
            exact real
          · rw [outcome]
            exact ⟨_, rfl⟩

/-- A calculation ends with a number or with a failure.  The failure is lexical exactly where
scanning fails, syntactic where parsing fails, and otherwise a reason of arithmetic; and the outcome
does not depend on the elementary functions outside their domains. -/
theorem calculate_phases (context : Context) (source : String) :
    Ensures (·.isNaN = false) (fun fault => ∃ cause, fault = .failure cause)
      (calculate context source) ∧
    (∀ cause, scan source = .error cause →
      calculate context source = .error (.failure (.lexical cause)) ∧ cause.kind ∈ Kind.lexical) ∧
    (∀ tokens fault, scan source = .ok tokens →
      Expr.ofTokens context.settings.maxDepth tokens = .error fault →
      ∃ cause, fault = .failure cause ∧
        calculate context source = .error (.failure (.syntactic cause)) ∧
        cause.kind ∈ Kind.syntactic) ∧
    (∀ tokens expr, scan source = .ok tokens →
      Expr.ofTokens context.settings.maxDepth tokens = .ok expr →
      (∃ x, calculate context source = .ok x ∧ x.isNaN = false) ∨
      ∃ cause, calculate context source = .error (.failure (.evaluation cause)) ∧
        cause.kind ∈ Kind.arithmetical) ∧
    ∀ elementary, context.elementary.Agree elementary →
      calculate ⟨elementary, context.settings⟩ source = calculate context source := by
  refine ⟨ensures_calculate, ?_, ?_, ?_, ?_⟩
  · intro cause failed
    exact ⟨calculate_of_scan_error failed, cause.kind_mem⟩
  · intro tokens fault scanned unparsed
    obtain ⟨cause, same, outcome⟩ := calculate_of_unparsed scanned unparsed
    exact ⟨cause, same, outcome, cause.kind_mem⟩
  · intro tokens expr scanned parsed
    exact calculate_of_parsed scanned parsed
  · intro elementary agree
    exact (calculate_congr agree).symm

end Calculate

end Reckoner
