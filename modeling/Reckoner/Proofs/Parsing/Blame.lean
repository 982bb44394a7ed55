import Reckoner.Proofs.Parsing.Grammar
import Reckoner.Proofs.Parsing.Invariant
import Reckoner.Proofs.Token.Spelling

/-!
# What faults are about

Every rule leaves a final part of its tokens, or stops with a fault that is about one of them: its
position and its text are those of the token, except that an input which ends too early is reported
at its end.  What a rule expects is an operand or the arguments of a built-in function.  Tokens that
are parsed as a whole can besides be missing altogether or follow a complete expression.

## Implementation notes

This is an invariant, because a fault about fewer tokens is a fault about all of them.
-/

namespace Reckoner

namespace Parsing

/-- The fault is about one of the tokens, or about the end of the input. -/
inductive Blames (limit finish : Int) (tokens : List Token) : Fault SyntaxError → Prop
  | endOfInput {expected : Expectation} : expected.OfRule →
      Blames limit finish tokens (.failure (.endOfInput expected finish))
  | endInParentheses {expected : Expectation} : expected.OfRule →
      Blames limit finish tokens (.failure (.endInParentheses expected finish))
  | unclosed {t} : t ∈ tokens → t.kind = .leftParen →
      Blames limit finish tokens (.failure (.unclosed t.position))
  | strayClosing {t} : t ∈ tokens → t.kind = .rightParen →
      Blames limit finish tokens (.failure (.strayClosing t.position))
  | unexpectedToken {t} {expected : Expectation} : expected.OfRule → t ∈ tokens →
      Blames limit finish tokens (.failure (.unexpectedToken expected t.text t.position))
  | expectedClosing {t} : t ∈ tokens →
      Blames limit finish tokens (.failure (.expectedClosing t.text t.position))
  | unknownName {t} : t ∈ tokens → t.kind = .name →
      Blames limit finish tokens (.failure (.unknownName t.text t.position))
  | argumentCount {t} (arity given : Nat) : t ∈ tokens → t.kind = .name →
      Blames limit finish tokens (.failure (.argumentCount t.text arity given t.position))
  | tooDeeplyNested {t position} : t ∈ tokens →
      (position = finish ∨ ∃ u ∈ tokens, position = u.position) →
      Blames limit finish tokens (.failure (.tooDeeplyNested limit position))
  | unreadable {t} : t ∈ tokens → Blames limit finish tokens (.misuse (.unreadableNumeral t.text))

section Blames

variable {limit finish : Int} {tokens others : List Token} {fault : Fault SyntaxError}

/-- What some tokens are blamed for, more tokens are. -/
theorem Blames.mono (h : Blames limit finish tokens fault) (among : tokens ⊆ others) :
    Blames limit finish others fault := by
  cases h with
  | endOfInput rule => exact .endOfInput rule
  | endInParentheses rule => exact .endInParentheses rule
  | unclosed mem kind => exact .unclosed (among mem) kind
  | strayClosing mem kind => exact .strayClosing (among mem) kind
  | unexpectedToken rule mem => exact .unexpectedToken rule (among mem)
  | expectedClosing mem => exact .expectedClosing (among mem)
  | unknownName mem kind => exact .unknownName (among mem) kind
  | argumentCount arity given mem kind => exact .argumentCount arity given (among mem) kind
  | tooDeeplyNested mem place =>
      exact .tooDeeplyNested (among mem) (place.imp_right fun ⟨u, member, same⟩ =>
        ⟨u, among member, same⟩)
  | unreadable mem => exact .unreadable (among mem)

theorem blames_unexpected (scope : Scope) {expected : Expectation} (rule : expected.OfRule)
    (tokens : List Token) :
    Blames scope.limit scope.finish tokens (.failure (scope.unexpected expected tokens)) := by
  unfold Scope.unexpected
  split
  · split
    · exact .endOfInput rule
    · exact .endInParentheses rule
  · split
    · rename_i stray
      exact .strayClosing List.mem_cons_self stray.1
    · exact .unexpectedToken rule List.mem_cons_self

end Blames

/-- A rule leaves a final part of its tokens or stops with a fault about them. -/
def Blames.invariant : Invariant where
  leaves _ tokens rest := rest <:+ tokens
  stops scope tokens := Blames scope.limit scope.finish tokens
  refl _ tokens := List.suffix_refl tokens
  trans left behind := behind.trans left
  stops_later left blamed := blamed.mono left.subset
  pass _ token rest _ _ := List.suffix_cons token rest
  deeper _ left := left
  stops_deeper room blamed := by
    rw [Scope.eq_of_deeper room] at blamed
    exact blamed
  group {_ _ opening closing following rest} _ _ left _ :=
    ((List.suffix_cons closing rest).trans left).trans (List.suffix_cons opening following)
  stops_inside {_ _ opening following _} _ room blamed := by
    rw [Scope.eq_of_inside room] at blamed
    exact blamed.mono (List.subset_cons_self opening following)
  unclosed opens _ _ := .unclosed List.mem_cons_self opens
  expectedClosing _ _ left _ :=
    .expectedClosing (List.mem_cons_of_mem _ (left.subset List.mem_cons_self))
  tooDeeplyNested scope token following := by
    refine .tooDeeplyNested List.mem_cons_self ?_
    cases following with
    | nil => exact .inl rfl
    | cons next others => exact .inr ⟨next, by simp, rfl⟩
  unexpected scope _ tokens rule := blames_unexpected scope rule tokens
  unknownName _ _ _ name := .unknownName List.mem_cons_self name
  argumentCount _ _ _ arity given name := .argumentCount arity given List.mem_cons_self name
  unreadable _ _ _ _ := .unreadable List.mem_cons_self

/-- Why the tokens in front of the end are no expression: there are none, a rule stops with a fault
about them, or one of them is left behind an expression. -/
inductive Rejects (limit finish : Int) (tokens : List Token) : SyntaxError → Prop
  | empty : Rejects limit finish tokens .emptyExpression
  | blamed {cause} : Blames limit finish tokens (.failure cause) →
      Rejects limit finish tokens cause
  | trailing {t} : t ∈ tokens →
      Rejects limit finish tokens (.trailingInput t.text t.position)

theorem rejects_of_ofTokens {limit : Int} {body : List Token} {last : Token} {cause : SyntaxError}
    (ended : last.kind = .finish) (inner : ∀ t ∈ body, t.kind ≠ .finish)
    (failed : Expr.ofTokens limit (body ++ [last]) = .error (.failure cause)) :
    Rejects limit last.position body cause := by
  by_cases nonempty : body = []
  · rw [nonempty, List.nil_append, Expr.ofTokens_end ended] at failed
    cases failed
    exact .empty
  · rw [Expr.ofTokens_append ended inner nonempty] at failed
    have pinned : Ensures _ _ (expression ⟨limit, last.position, 0, 0⟩ body) :=
      Blames.invariant.obeys_expression _ body
    cases outcome : expression ⟨limit, last.position, 0, 0⟩ body with
    | error fault =>
        rw [outcome] at failed pinned
        cases failed
        exact .blamed pinned
    | ok parsed =>
        rw [outcome] at failed pinned
        have final : parsed.rest <:+ body := pinned
        simp only [bind, Except.bind] at failed
        split at failed
        · cases failed
        · rename_i token following found
          have mem : token ∈ body := final.subset (by simp [found])
          split at failed
          · rename_i closing
            cases failed
            exact .blamed (.strayClosing mem closing)
          · cases failed
            exact .trailing mem

/-- A text that is scanned and not parsed is rejected for its lexemes. -/
theorem rejects_of_scan {limit : Int} {source : String} {tokens : List Token} {cause : SyntaxError}
    (scanned : Token.scan source = .ok tokens)
    (unparsed : Expr.ofTokens limit tokens = .error (.failure cause)) :
    ∃ front, tokens = front ++ [⟨.finish, "", source.length⟩] ∧
      (∀ t ∈ front, IsLexeme t.kind t.text.toList) ∧ Rejects limit source.length front cause := by
  obtain ⟨front, rfl, lexemes⟩ := Token.eq_append_of_scan scanned
  have inner : ∀ t ∈ front, t.kind ≠ .finish :=
    fun t mem => Token.ne_finish_of_isLexeme (lexemes t mem)
  exact ⟨front, rfl, lexemes, rejects_of_ofTokens rfl inner unparsed⟩

end Parsing

end Reckoner
