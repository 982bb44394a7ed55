import Reckoner.Proofs.Calculation
import Reckoner.Proofs.Parsing.Lockstep
import Reckoner.Proofs.Parsing.Phrase

/-!
# Layout does not matter

Texts that are scanned into the same words are calculated alike, wherever their layout puts the
words: they have the same value, or fail in the same way at the same word.
-/

namespace Reckoner

open Token Parsing

/-- The positions of two tokens with the same index in their lists. -/
def SamePlace (tokens tokens' : List Token) (position position' : Int) : Prop :=
  ∃ (i : Nat) (t t' : Token), tokens[i]? = some t ∧ tokens'[i]? = some t' ∧
    t.position = position ∧ t'.position = position'

section SamePlace

variable {tokens tokens' : List Token} {limit : Int}

/-- Two runs under one limit, on tokens that correspond by their index. -/
def Parsing.Pairing.byIndex (tokens tokens' : List Token) (limit : Int) : Pairing where
  places := SamePlace tokens tokens'
  limit := limit
  limit' := limit
  limit_le := Int.le_refl limit

theorem sameTokens_of_map_word (same : tokens.map word = tokens'.map word) :
    (Pairing.byIndex tokens tokens' limit).SameTokens tokens tokens' := by
  have length : tokens.length = tokens'.length := by simpa using congrArg List.length same
  refine List.forall₂_iff_get.2 ⟨length, fun i inside inside' => ?_⟩
  have words : (tokens[i]).word = (tokens'[i]).word := by
    rw [← List.getElem_map word, ← List.getElem_map word]
    · simp only [same]
    · simpa using inside'
    · simpa using inside
  obtain ⟨kind, text⟩ := Token.eq_of_word_eq words
  exact ⟨kind, text, i, _, _, List.getElem?_eq_getElem inside, List.getElem?_eq_getElem inside',
    rfl, rfl⟩

end SamePlace

/-- If two texts are scanned into the same words, then both have the same value, or both fail with
the same kind and without a position or at tokens with the same index. -/
theorem calculate_layout (context : Context) (source source' : String) (tokens tokens' : List Token)
    (scanned : scan source = .ok tokens) (scanned' : scan source' = .ok tokens')
    (same : tokens.map word = tokens'.map word) :
    (∃ x, calculate context source = .ok x ∧ calculate context source' = .ok x) ∨
      ∃ cause cause' : Failure, calculate context source = .error (.failure cause) ∧
        calculate context source' = .error (.failure cause') ∧ cause.kind = cause'.kind ∧
        (cause.position? = none ∧ cause'.position? = none ∨
          ∃ position position', cause.position? = some position ∧
            cause'.position? = some position' ∧ SamePlace tokens tokens' position position') := by
  have lockstep : Pairing.Lockstep _ _ (Expr.ofTokens context.settings.maxDepth tokens)
      (Expr.ofTokens context.settings.maxDepth tokens') :=
    Pairing.lockstep_ofTokens (sameTokens_of_map_word same)
  rcases lockstep.agree rfl with
    ⟨expr, parsed, parsed'⟩ | ⟨fault, fault', unparsed, unparsed', equal⟩
  · have alike : calculate context source' = calculate context source := by
      rw [calculate_of_scan scanned, calculate_of_scan scanned', calculateTokens_of_ok parsed,
        calculateTokens_of_ok parsed']
    rw [alike]
    rcases calculate_of_parsed scanned parsed with ⟨x, outcome, _⟩ | ⟨cause, outcome, _⟩
    · exact .inl ⟨x, outcome, outcome⟩
    · exact .inr ⟨_, _, outcome, outcome, rfl, .inl ⟨rfl, rfl⟩⟩
  · obtain ⟨cause, rfl, outcome⟩ := calculate_of_unparsed scanned unparsed
    obtain ⟨cause', rfl, outcome'⟩ := calculate_of_unparsed scanned' unparsed'
    refine .inr ⟨_, _, outcome, outcome', ?_⟩
    cases equal with
    | unplaced none => exact ⟨rfl, .inl ⟨none, none⟩⟩
    | placed place places =>
        exact ⟨(SyntaxError.kind_placedAt _ _).symm,
          .inr ⟨_, _, place, SyntaxError.position?_placedAt place, places⟩⟩

/-- A parenthesis behind a sign, with and without a blank between them: the failure of the second
text stands where the parenthesis does. -/
theorem calculate_spaced_sign :
    scan "-)" = .ok [⟨.minus, "-", 0⟩, ⟨.rightParen, ")", 1⟩, ⟨.finish, "", 2⟩] ∧
      scan "- )" = .ok [⟨.minus, "-", 0⟩, ⟨.rightParen, ")", 2⟩, ⟨.finish, "", 3⟩] ∧
      ∃ cause, calculate ⟨.platform, .default⟩ "- )" = .error (.failure cause) ∧
        cause.kind = .unmatchedParenthesis ∧ cause.position? = some 2 := by
  have scanned : scan "-)" =
      .ok [⟨.minus, "-", 0⟩, ⟨.rightParen, ")", 1⟩, ⟨.finish, "", 2⟩] := by
    simp [scan, scanFrom, readLexeme, isNumeralDigit, isNameChar, TokenKind.ofSymbol?,
      Text.isLayout]
  have scanned' : scan "- )" =
      .ok [⟨.minus, "-", 0⟩, ⟨.rightParen, ")", 2⟩, ⟨.finish, "", 3⟩] := by
    simp [scan, scanFrom, readLexeme, isNumeralDigit, isNameChar, TokenKind.ofSymbol?,
      Text.isLayout]
  have failed : Expr.ofTokens 64 [⟨.minus, "-", 0⟩, ⟨.rightParen, ")", 1⟩, ⟨.finish, "", 2⟩] =
      .error (.failure (.strayClosing 1)) := by
    have cut : Expr.ofTokens 64 ([⟨.minus, "-", 0⟩, ⟨.rightParen, ")", 1⟩] ++
        [⟨.finish, "", 2⟩]) = _ := Expr.ofTokens_append rfl (by decide) (by decide)
    refine cut.trans ?_
    simp [expression, term, factor, Parsing.power, operand, Scope.deeper, Scope.unexpected, fail,
      bind, Except.bind]
  obtain ⟨cause, same, outcome⟩ : ∃ cause, Fault.failure (.strayClosing 1) = .failure cause ∧
      calculate ⟨.platform, .default⟩ "-)" = .error (.failure (.syntactic cause)) :=
    calculate_of_unparsed scanned failed
  cases same
  rcases calculate_layout ⟨.platform, .default⟩ "-)" "- )" _ _ scanned scanned' rfl with
    ⟨x, value, _⟩ | ⟨_, cause', failure, failure', kind, place⟩
  · cases outcome.symm.trans value
  · cases outcome.symm.trans failure
    refine ⟨scanned, scanned', cause', failure', kind.symm, ?_⟩
    rcases place with ⟨none, _⟩ | ⟨_, _, first, second, i, t, t', found, found', rfl, rfl⟩
    · cases none
    · -- the failure of the first text is at position 1, so that the index is 1
      rcases i with _ | _ | _ | i
      · cases found
        cases first
      · cases found'
        exact second
      · cases found
        cases first
      · cases found

end Reckoner
