import Reckoner.Proofs.Parsing.Completeness
import Reckoner.Proofs.Parsing.Soundness

/-!
# The parser accepts its grammar

Tokens are parsed as a tree exactly when they derive it with nesting under the limit.  Soundness and
completeness of the rules are put together for a whole list of tokens, whose end token is cut off
before the rules see it.
-/

namespace Reckoner

open Parsing

variable {limit : Int} {body : List Token} {last : Token}

/-- Tokens that end with an end token have a first one. -/
theorem exists_first_finish {tokens : List Token}
    (ended : tokens.getLast?.map (·.kind) = some .finish) :
    ∃ body last others, tokens = body ++ last :: others ∧ (∀ t ∈ body, t.kind ≠ .finish) ∧
      last.kind = .finish ∧ (last :: others).getLast?.map (·.kind) = some .finish := by
  obtain ⟨final, last, kind⟩ := Option.map_eq_some_iff.1 ended
  have some : (tokens.find? fun t => t.kind = .finish).isSome :=
    List.find?_isSome.2 ⟨final, List.mem_of_getLast? last, decide_eq_true kind⟩
  obtain ⟨first, found⟩ := Option.isSome_iff_exists.1 some
  obtain ⟨finish, body, others, rfl, inner⟩ := List.find?_eq_some_iff_append.1 found
  refine ⟨body, first, others, rfl, by simpa using inner, of_decide_eq_true finish, ?_⟩
  rw [List.getLast?_append] at ended
  simpa using ended

namespace Expr

/-- The rules see the tokens in front of the first end token, and its position. -/
theorem ofTokens_append_cons {others : List Token} (ended : last.kind = .finish)
    (inner : ∀ t ∈ body, t.kind ≠ .finish) (nonempty : body ≠ [])
    (closed : (last :: others).getLast?.map (·.kind) = some .finish) :
    ofTokens limit (body ++ last :: others) = (do
      let parsed ← expression ⟨limit, last.position, 0, 0⟩ body
      match parsed.rest with
      | [] => return parsed.value
      | token :: _ =>
          if token.kind = .rightParen then fail (.strayClosing token.position)
          else fail (.trailingInput token.text token.position)) := by
  have cut : (body ++ last :: others).takeWhile (·.kind ≠ .finish) = body := by
    rw [List.takeWhile_append_of_pos (by simpa using inner)]
    simp [ended]
  have found : (body ++ last :: others).find? (·.kind = .finish) = some last := by
    rw [List.find?_append, List.find?_eq_none.2 (by simpa using inner)]
    simp [ended]
  have whole : (body ++ last :: others).getLast?.map (·.kind) = some .finish := by
    rw [List.getLast?_append, Option.map_or, closed]
    rfl
  rw [ofTokens, if_pos whole, found]
  generalize (body ++ last :: others).takeWhile (·.kind ≠ .finish) = tokens at cut
  subst cut
  simp only [List.isEmpty_iff, if_neg nonempty]
  rfl

/-- The rules see the tokens in front of the end token, and its position. -/
theorem ofTokens_append (ended : last.kind = .finish) (inner : ∀ t ∈ body, t.kind ≠ .finish)
    (nonempty : body ≠ []) :
    ofTokens limit (body ++ [last]) = (do
      let parsed ← expression ⟨limit, last.position, 0, 0⟩ body
      match parsed.rest with
      | [] => return parsed.value
      | token :: _ =>
          if token.kind = .rightParen then fail (.strayClosing token.position)
          else fail (.trailingInput token.text token.position)) :=
  ofTokens_append_cons ended inner nonempty (by simp [ended])

theorem ofTokens_end (ended : last.kind = .finish) :
    ofTokens limit [last] = fail .emptyExpression := by
  simp [ofTokens, ended]

/-- Tokens behind the first end token are not looked at. -/
theorem ofTokens_append_end {others : List Token} (ended : last.kind = .finish)
    (inner : ∀ t ∈ body, t.kind ≠ .finish)
    (closed : (last :: others).getLast?.map (·.kind) = some .finish) :
    ofTokens limit (body ++ last :: others) = ofTokens limit (body ++ [last]) := by
  by_cases nonempty : body = []
  · subst nonempty
    rw [List.nil_append, List.nil_append, ofTokens_end ended, ofTokens, if_pos closed]
    simp [ended]
  · rw [ofTokens_append ended inner nonempty, ofTokens_append_cons ended inner nonempty closed]

/-- Tokens that are parsed derive the tree, with nesting for which there is room at the start. -/
theorem ensures_ofTokens (ended : last.kind = .finish) (inner : ∀ t ∈ body, t.kind ≠ .finish) :
    Ensures (fun e => ∃ n, Derives .expression n body e ∧ Scope.Fits ⟨limit, last.position, 0, 0⟩ n)
      (FaultOf body) (ofTokens limit (body ++ [last])) := by
  by_cases nonempty : body = []
  · subst nonempty
    rw [List.nil_append, ofTokens_end ended]
    exact .of_failure ⟨_, rfl⟩
  · rw [ofTokens_append ended inner nonempty]
    apply (recognises_expression _ body).and_then
    rintro parsed ⟨n, consumed, whole, derived, fits⟩
    split
    · rename_i found
      rw [found, List.append_nil] at whole
      exact ⟨n, whole ▸ derived, fits⟩
    · split <;> exact .of_failure ⟨_, rfl⟩

/-- Tokens that derive a tree are parsed where there is room for the nesting. -/
theorem ofTokens_of_derives (ended : last.kind = .finish) (inner : ∀ t ∈ body, t.kind ≠ .finish)
    {n : Nat} {e : Expr} (h : Derives .expression n body e)
    (fits : Scope.Fits ⟨limit, last.position, 0, 0⟩ n) :
    ofTokens limit (body ++ [last]) = .ok e := by
  obtain ⟨token, following, nonempty, _⟩ := h.starts
  rw [ofTokens_append ended inner (by simp [nonempty])]
  have parsed := yields_expression_of_derives h fits (.nil .expression)
  rw [List.append_nil] at parsed
  cases outcome : expression ⟨limit, last.position, 0, 0⟩ body with
  | error fault =>
      rw [outcome] at parsed
      exact parsed.elim
  | ok found =>
      rw [outcome] at parsed
      obtain ⟨value, rest, fewer⟩ := found
      obtain ⟨rfl, rfl⟩ := parsed
      rfl

end Expr

/-- A list of tokens with one end token, the last, is parsed as a tree exactly when the tokens in
front of it derive the tree with nesting of at most the limit; and no tokens derive two trees. -/
theorem ofTokens_eq_ok_iff_derives (limit : Int) (nonnegative : 0 ≤ limit) (body : List Token)
    (last : Token) (ended : last.kind = .finish) (inner : ∀ t ∈ body, t.kind ≠ .finish) :
    (∀ e, Expr.ofTokens limit (body ++ [last]) = .ok e ↔
      ∃ n : Nat, (n : Int) ≤ limit ∧ Derives .expression n body e) ∧
    ∀ ts m n d e, Derives .expression m ts d → Derives .expression n ts e → d = e := by
  constructor
  · intro e
    constructor
    · intro parsed
      have sound : Ensures _ _ (Expr.ofTokens limit (body ++ [last])) :=
        Expr.ensures_ofTokens ended inner
      rw [parsed] at sound
      obtain ⟨n, derived, fits⟩ := sound
      refine ⟨n, ?_, derived⟩
      simp only [Scope.Fits] at fits
      omega
    · rintro ⟨n, bounded, derived⟩
      apply Expr.ofTokens_of_derives ended inner derived
      right
      simpa using bounded
  · intro ts m n d e first second
    exact first.unique second

/-- The tokens of `-pi^e` nest two levels deep, a sign and an exponent, and are parsed under the
limit two as the negation of a power. -/
theorem ofTokens_negated_power :
    Expr.ofTokens 2 [⟨.minus, "-", 0⟩, ⟨.name, "pi", 1⟩, ⟨.caret, "^", 3⟩, ⟨.name, "e", 4⟩,
        ⟨.finish, "", 5⟩] =
      .ok (.negate (.binary .pow (.constant "pi" Constant.pi.value)
        (.constant "e" Constant.e.value))) := by
  have equivalent := ofTokens_eq_ok_iff_derives 2 (by decide)
    [⟨.minus, "-", 0⟩, ⟨.name, "pi", 1⟩, ⟨.caret, "^", 3⟩, ⟨.name, "e", 4⟩] ⟨.finish, "", 5⟩ rfl
    (by decide)
  have raised : Derives .power 1 [⟨.name, "pi", 1⟩, ⟨.caret, "^", 3⟩, ⟨.name, "e", 4⟩] _ :=
    .raise (.constant .pi rfl rfl) rfl (.power (.operand (.constant .e rfl rfl)))
  exact (equivalent.1 _).2 ⟨2, by decide, .term (.factor (.negate rfl (.power raised)))⟩

end Reckoner
