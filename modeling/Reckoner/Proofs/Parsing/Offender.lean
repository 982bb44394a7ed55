import Reckoner.Proofs.Parsing.Continuation
import Reckoner.Proofs.Parsing.Grammar
import Reckoner.Proofs.Token.Spelling

/-!
# The first token at fault

An error about a single token is decided when the parser comes to that token.  Nothing behind the
token changes the error, and the tokens in front of it are an expression or the beginning of one.

## Implementation notes

Two lists are compared through the run on their common front.  The first comparison cuts behind the
token at fault and the second in front of it.  The positions of scanned tokens increase, so that the
position in the error tells on which side of the cut the token stands.
-/

namespace Reckoner

open Parsing

namespace Parsing

/-- An expression that has been parsed, if nothing is left behind it. -/
def exhausted {bound : Nat} (parsed : Parsed Expr bound) : Outcome (Parsed Expr bound) :=
  match parsed.rest with
  | [] => .ok parsed
  | token :: _ =>
      if token.kind = .rightParen then fail (.strayClosing token.position)
      else fail (.trailingInput token.text token.position)

/-- An expression made of all the tokens. -/
def whole (scope : Scope) (tokens : List Token) : Outcome (Parsed Expr tokens.length) := do
  let parsed ← expression scope tokens
  exhausted parsed

variable {scope scope' : Scope} {rest rest' tokens : List Token} {cause : SyntaxError}
  {position : Int}

theorem within_exhausted {b : Nat} (parsed : Parsed Expr b) :
    Within parsed.rest (exhausted parsed) := by
  unfold exhausted
  split
  · exact List.suffix_refl _
  · rename_i token following found
    rw [found]
    split
    · exact late_of_mem List.mem_cons_self rfl
    · exact late_of_mem List.mem_cons_self rfl

theorem within_whole (scope : Scope) (tokens : List Token) :
    Within tokens (whole scope tokens) := by
  apply (Blames.invariant.obeys_expression scope tokens).within.and_then
  intro parsed final
  exact (within_exhausted parsed).mono final

theorem alike_whole (same : scope.Same scope') (us : List Token) :
    Alike rest rest' (whole scope (us ++ rest)) (whole scope' (us ++ rest')) := by
  apply (alike_expression same us).bind
  · intro parsed parsed' token before _ behind behind'
    unfold exhausted
    rw [behind, behind']
    dsimp only
    split
    · exact .failed _
    · exact .failed _
  · intro parsed
    exact within_exhausted parsed
  · intro parsed
    exact within_exhausted parsed

/-- A run that fails for a token fails alike with other tokens behind the front, or the token stands
behind the front and the other run comes there, too. -/
theorem Alike.eq_or_within {α : Type} {b b' : Nat} {x : Outcome (Parsed α b)}
    {y : Outcome (Parsed α b')} (h : Alike rest rest' x y) (failed : x = .error (.failure cause))
    (about : cause.offending? = some position) :
    y = .error (.failure cause) ∨ (∃ u ∈ rest, u.position = position) ∧ Within rest' y := by
  cases h with
  | found => cases failed
  | failed fault =>
      cases failed
      exact .inl rfl
  | nested =>
      cases failed
      cases about
  | reached within within' =>
      rw [failed] at within
      exact .inr ⟨within.among cause position rfl about, within'⟩

end Parsing

namespace Expr

variable {limit : Int} {front body others : List Token} {t last : Token} {cause : SyntaxError}

theorem ofTokens_eq_whole (ended : last.kind = .finish) (inner : ∀ t ∈ body, t.kind ≠ .finish)
    (nonempty : body ≠ []) (closed : (last :: others).getLast?.map (·.kind) = some .finish) :
    ofTokens limit (body ++ last :: others) =
      (whole ⟨limit, last.position, 0, 0⟩ body).map (·.value) := by
  rw [ofTokens_append_cons ended inner nonempty closed, whole]
  cases expression ⟨limit, last.position, 0, 0⟩ body with
  | error fault => rfl
  | ok parsed =>
      obtain ⟨value, rest, fewer⟩ := parsed
      cases rest with
      | nil => rfl
      | cons token following =>
          simp only [bind, Except.bind, exhausted]
          split
          · rfl
          · rfl

/-- An error is that of the rules for the tokens in front of the end. -/
theorem whole_of_ofTokens (ended : last.kind = .finish) (inner : ∀ t ∈ body, t.kind ≠ .finish)
    (nonempty : body ≠ []) (failed : ofTokens limit (body ++ [last]) = .error (.failure cause)) :
    whole ⟨limit, last.position, 0, 0⟩ body = .error (.failure cause) := by
  rw [ofTokens_eq_whole ended inner nonempty (by simp [ended])] at failed
  cases outcome : whole ⟨limit, last.position, 0, 0⟩ body with
  | ok parsed =>
      rw [outcome] at failed
      cases failed
  | error fault =>
      rw [outcome] at failed
      cases failed
      rfl

/-- What stands behind the token at fault may be replaced. -/
theorem ofTokens_replace {last' : Token} {body' : List Token} (ended : last.kind = .finish)
    (ended' : last'.kind = .finish) (inner : ∀ u ∈ front ++ t :: body, u.kind ≠ .finish)
    (inner' : ∀ u ∈ body', u.kind ≠ .finish)
    (closed : (last' :: others).getLast?.map (·.kind) = some .finish)
    (failed : ofTokens limit (front ++ t :: body ++ [last]) = .error (.failure cause))
    (about : cause.offending? = some t.position) (behind : ∀ u ∈ body, u.position ≠ t.position) :
    ofTokens limit (front ++ t :: body' ++ last' :: others) = .error (.failure cause) := by
  have inner'' : ∀ u ∈ front ++ t :: body', u.kind ≠ .finish := by
    simp only [List.forall_mem_append, List.forall_mem_cons] at inner ⊢
    exact ⟨inner.1, inner.2.1, inner'⟩
  have failed := whole_of_ofTokens ended inner (by simp) failed
  rw [ofTokens_eq_whole ended' inner'' (by simp) closed]
  rw [List.append_cons] at failed ⊢
  have same : Scope.Same ⟨limit, last.position, 0, 0⟩ ⟨limit, last'.position, 0, 0⟩ :=
    ⟨rfl, rfl, rfl⟩
  have alike : Alike body body' _ _ := alike_whole same (front ++ [t])
  rcases alike.eq_or_within failed about with same | ⟨⟨u, mem, place⟩, _⟩
  · rw [same]
    rfl
  · exact absurd place (behind u mem)

/-- The tokens in front of the token at fault fail only because the input ends. -/
theorem ofTokens_cut {last' : Token} (ended : last.kind = .finish)
    (ended' : last'.kind = .finish) (inner : ∀ u ∈ front ++ t :: body, u.kind ≠ .finish)
    (failed : ofTokens limit (front ++ t :: body ++ [last]) = .error (.failure cause))
    (about : cause.offending? = some t.position) (before : ∀ u ∈ front, u.position ≠ t.position) :
    (∃ e, ofTokens limit (front ++ [last']) = .ok e) ∨
      ∃ early, ofTokens limit (front ++ [last']) = .error (.failure early) ∧
        early.endsEarly = true := by
  by_cases nonempty : front = []
  · rw [nonempty, List.nil_append, ofTokens_end ended']
    exact .inr ⟨.emptyExpression, rfl, rfl⟩
  have failed := whole_of_ofTokens ended inner (by simp) failed
  rw [ofTokens_eq_whole ended' (fun u mem => inner u (List.mem_append_left _ mem)) nonempty
    (by simp [ended'])]
  have same : Scope.Same ⟨limit, last.position, 0, 0⟩ ⟨limit, last'.position, 0, 0⟩ :=
    ⟨rfl, rfl, rfl⟩
  have alike : Alike (t :: body) [] _ _ := alike_whole same front
  rw [List.append_nil] at alike
  rcases alike.eq_or_within failed about with same | ⟨_, within⟩
  · have within := within_whole ⟨limit, last'.position, 0, 0⟩ front
    rw [same] at within
    obtain ⟨u, mem, place⟩ := within.among cause t.position rfl about
    exact absurd place (before u mem)
  · cases outcome : whole ⟨limit, last'.position, 0, 0⟩ front with
    | ok parsed => exact .inl ⟨_, rfl⟩
    | error fault =>
        rw [outcome] at within
        obtain ⟨early, rfl, endsEarly⟩ := within.ended rfl
        exact .inr ⟨early, rfl, endsEarly⟩

end Expr

/-- If parsing the tokens of a text fails with an error about a single token, then it fails with
that error whatever stands behind the token, and the tokens in front of it are parsed or fail only
because the input ends. -/
theorem ofTokens_offending_token (source : String) (limit : Int) (front rest : List Token)
    (t : Token) (cause : SyntaxError) (scanned : Token.scan source = .ok (front ++ t :: rest))
    (inner : t.kind ≠ .finish)
    (failed : Expr.ofTokens limit (front ++ t :: rest) = .error (.failure cause))
    (about : cause.offending? = some t.position) :
    (∀ rest' : List Token, rest'.getLast?.map (·.kind) = some .finish →
      Expr.ofTokens limit (front ++ t :: rest') = .error (.failure cause)) ∧
    ∀ last : Token, last.kind = .finish →
      (∃ e, Expr.ofTokens limit (front ++ [last]) = .ok e) ∨
        ∃ early, Expr.ofTokens limit (front ++ [last]) = .error (.failure early) ∧
          early.endsEarly = true := by
  obtain ⟨words, same, lexemes⟩ := Token.eq_append_of_scan scanned
  obtain rfl | ⟨body, last, rfl⟩ := List.eq_nil_or_concat rest
  · obtain ⟨_, ends⟩ := List.append_inj' same rfl
    cases ends
    exact absurd rfl inner
  · obtain ⟨_, later, before⟩ := List.pairwise_append.1 (Token.pairwise_of_scan scanned)
    rw [List.concat_eq_append] at same failed later
    rw [← List.cons_append, ← List.append_assoc] at same failed
    obtain ⟨rfl, ends⟩ := List.append_inj' same rfl
    cases ends
    have visible : ∀ u ∈ front ++ t :: body, u.kind ≠ .finish :=
      fun u mem => Token.ne_finish_of_isLexeme (lexemes u mem)
    constructor
    · intro rest' ended'
      obtain ⟨body', last', others, rfl, inner', kind, closed⟩ := exists_first_finish ended'
      rw [← List.cons_append, ← List.append_assoc]
      apply Expr.ofTokens_replace rfl kind visible inner' closed failed about
      intro u mem
      exact Int.ne_of_gt ((List.pairwise_cons.1 later).1 u (List.mem_append_left _ mem))
    · intro last' ended'
      apply Expr.ofTokens_cut rfl ended' visible failed about
      intro u mem
      exact Int.ne_of_lt (before u mem t List.mem_cons_self)

/-- In `-)` the parenthesis is at fault, and it still is with a name behind it; the sign alone is
parsed or ends too early. -/
theorem ofTokens_sign_without_operand :
    Token.scan "-)" = .ok [⟨.minus, "-", 0⟩, ⟨.rightParen, ")", 1⟩, ⟨.finish, "", 2⟩] ∧
      Expr.ofTokens 1 [⟨.minus, "-", 0⟩, ⟨.rightParen, ")", 1⟩, ⟨.finish, "", 2⟩] =
        .error (.failure (.strayClosing 1)) ∧
      Expr.ofTokens 1 [⟨.minus, "-", 0⟩, ⟨.rightParen, ")", 1⟩, ⟨.name, "e", 2⟩,
        ⟨.finish, "", 3⟩] = .error (.failure (.strayClosing 1)) ∧
      ((∃ e, Expr.ofTokens 1 [⟨.minus, "-", 0⟩, ⟨.finish, "", 1⟩] = .ok e) ∨
        ∃ early, Expr.ofTokens 1 [⟨.minus, "-", 0⟩, ⟨.finish, "", 1⟩] =
          .error (.failure early) ∧ early.endsEarly = true) := by
  have scanned : Token.scan "-)" =
      .ok [⟨.minus, "-", 0⟩, ⟨.rightParen, ")", 1⟩, ⟨.finish, "", 2⟩] := by
    simp [Token.scan, Token.scanFrom, Token.readLexeme, Token.isNumeralDigit, Token.isNameChar,
      TokenKind.ofSymbol?, Text.isLayout]
  have failed : Expr.ofTokens 1 [⟨.minus, "-", 0⟩, ⟨.rightParen, ")", 1⟩, ⟨.finish, "", 2⟩] =
      .error (.failure (.strayClosing 1)) := by
    have cut : Expr.ofTokens 1 ([⟨.minus, "-", 0⟩, ⟨.rightParen, ")", 1⟩] ++
        [⟨.finish, "", 2⟩]) = _ := Expr.ofTokens_append rfl (by decide) (by decide)
    refine cut.trans ?_
    simp [expression, term, factor, Parsing.power, operand, Scope.deeper, Scope.unexpected, fail,
      bind, Except.bind]
  have decided := ofTokens_offending_token "-)" 1 [⟨.minus, "-", 0⟩] [⟨.finish, "", 2⟩]
    ⟨.rightParen, ")", 1⟩ (.strayClosing 1) scanned (by decide) failed rfl
  exact ⟨scanned, failed, decided.1 [⟨.name, "e", 2⟩, ⟨.finish, "", 3⟩] rfl,
    decided.2 ⟨.finish, "", 1⟩ rfl⟩

end Reckoner
