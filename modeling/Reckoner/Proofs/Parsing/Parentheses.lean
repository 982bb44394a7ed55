import Reckoner.Proofs.Parsing.Grammar
import Reckoner.Proofs.Parsing.Invariant
import Reckoner.Token.Balance

/-!
# What is said about parentheses is true

The parser counts the parentheses that are open but never looks at those behind the token where it
stops.  Still its errors tell the truth about all the tokens: parentheses are reported as unmatched
only if some are, as the first one that closes nothing or the last one that nothing closes, and the
input is reported as incomplete only if none are.

## Implementation notes

Under a scope with some open parentheses, whatever their positions are, the tokens that a rule leaves
have the same unpaired parentheses as the tokens that it sees.  The errors about the end of the input
are raised where no tokens are left, and a stray parenthesis is the next token.
-/

namespace Reckoner

open Token (Unpaired unpaired unpairedFrom)

namespace Token

variable {opened : List Int} {token last : Token} {tokens : List Token} {p : Int}

theorem unpairedFrom_pass (left : token.kind ≠ .leftParen) (right : token.kind ≠ .rightParen) :
    unpairedFrom opened (token :: tokens) = unpairedFrom opened tokens := by
  rw [unpairedFrom.eq_def]
  simp only [if_neg left, if_neg right]

theorem unpairedFrom_opening (kind : token.kind = .leftParen) :
    unpairedFrom opened (token :: tokens) = unpairedFrom (token.position :: opened) tokens := by
  rw [unpairedFrom.eq_def]
  simp only [if_pos kind]

theorem unpairedFrom_closing (kind : token.kind = .rightParen) :
    unpairedFrom (p :: opened) (token :: tokens) = unpairedFrom opened tokens := by
  rw [unpairedFrom, if_neg (by simp [kind]), if_pos kind]

theorem stray_unpairedFrom_closing (kind : token.kind = .rightParen) :
    (unpairedFrom [] (token :: tokens)).stray = some token.position := by
  rw [unpairedFrom, if_neg (by simp [kind]), if_pos kind]

/-- The end of the input is no parenthesis. -/
theorem unpairedFrom_append_finish (ended : last.kind = .finish) :
    unpairedFrom opened (tokens ++ [last]) = unpairedFrom opened tokens := by
  fun_induction unpairedFrom opened tokens with
  | case1 opened => exact unpairedFrom_pass (by simp [ended]) (by simp [ended])
  | case2 opened token tokens kind ih => exact (unpairedFrom_opening kind).trans ih
  | case3 token tokens left right ih =>
      rw [List.cons_append, unpairedFrom, if_neg left, if_pos right, ih]
  | case4 token tokens left right p outer ih => exact (unpairedFrom_closing right).trans ih
  | case5 opened token tokens left right ih => exact (unpairedFrom_pass left right).trans ih

end Token

namespace Parsing

/-- What an error says about parentheses is true of those that are unpaired. -/
def TrueOf (unpaired : Unpaired) : SyntaxError → Prop
  | .endOfInput .. => unpaired = ⟨none, []⟩
  | .endInParentheses .. => unpaired.unclosed ≠ []
  | .unclosed opening => unpaired.unclosed.head? = some opening
  | .strayClosing position => unpaired.stray = some position
  | _ => True

theorem trueOf_unexpected {scope : Scope} {opened : List Int} (expected : Expectation)
    (tokens : List Token) (count : opened.length = scope.parentheses) :
    TrueOf (unpairedFrom opened tokens) (scope.unexpected expected tokens) := by
  unfold Scope.unexpected
  split
  · split
    · rename_i outside
      cases List.length_eq_zero_iff.1 (count.trans outside)
      rfl
    · rename_i inside
      intro empty
      exact inside (count.symm.trans (congrArg List.length empty))
  · split
    · rename_i stray
      cases List.length_eq_zero_iff.1 (count.trans stray.2)
      exact Token.stray_unpairedFrom_closing stray.1
    · trivial

/-- A rule leaves tokens with the same unpaired parentheses, or stops with an error that is true of
them. -/
def TrueOf.invariant : Invariant where
  leaves scope tokens rest := ∀ opened : List Int, opened.length = scope.parentheses →
    unpairedFrom opened tokens = unpairedFrom opened rest
  stops scope tokens fault := ∀ opened : List Int, opened.length = scope.parentheses →
    ∀ cause, fault = .failure cause → TrueOf (unpairedFrom opened tokens) cause
  refl _ _ _ _ := rfl
  trans left behind opened count := (left opened count).trans (behind opened count)
  stops_later left stopped opened count cause same :=
    left opened count ▸ stopped opened count cause same
  pass _ _ _ left right _ _ := Token.unpairedFrom_pass left right
  deeper room left opened count := left opened (by rw [count, Scope.eq_of_deeper room])
  stops_deeper room stopped opened count := stopped opened (by rw [count, Scope.eq_of_deeper room])
  group {_ _ opening _ _ _} opens room left closes opened count := by
    rw [Token.unpairedFrom_opening opens,
      left (opening.position :: opened) (by rw [List.length_cons, count, Scope.eq_of_inside room]),
      Token.unpairedFrom_closing closes]
  stops_inside {_ _ opening _ _} opens room stopped opened count := by
    rw [Token.unpairedFrom_opening opens]
    exact stopped _ (by rw [List.length_cons, count, Scope.eq_of_inside room])
  unclosed {_ _ opening _} opens room left opened count := by
    rintro _ ⟨⟩
    rw [Token.unpairedFrom_opening opens,
      left (opening.position :: opened) (by rw [List.length_cons, count, Scope.eq_of_inside room])]
    rfl
  expectedClosing _ _ _ _ _ _ := by
    rintro _ ⟨⟩
    trivial
  tooDeeplyNested _ _ _ _ _ := by
    rintro _ ⟨⟩
    trivial
  unexpected _ expected tokens _ _ count := by
    rintro _ ⟨⟩
    exact trueOf_unexpected expected tokens count
  unknownName _ _ _ _ _ _ := by
    rintro _ ⟨⟩
    trivial
  argumentCount _ _ _ _ _ _ _ _ := by
    rintro _ ⟨⟩
    trivial
  unreadable _ _ _ _ _ _ := nofun

end Parsing

open Parsing

/-- An error tells the truth about the parentheses among all the tokens. -/
theorem Expr.trueOf_ofTokens {limit : Int} {body : List Token} {last : Token}
    (ended : last.kind = .finish) (inner : ∀ t ∈ body, t.kind ≠ .finish) :
    Ensures (fun _ => True)
      (fun fault => ∀ cause, fault = .failure cause → TrueOf (unpaired (body ++ [last])) cause)
      (ofTokens limit (body ++ [last])) := by
  rw [unpaired, Token.unpairedFrom_append_finish ended]
  by_cases nonempty : body = []
  · subst nonempty
    rw [List.nil_append, ofTokens_end ended]
    rintro _ ⟨⟩
    trivial
  · rw [ofTokens_append ended inner nonempty]
    have obeys : Ensures _ _ (expression ⟨limit, last.position, 0, 0⟩ body) :=
      TrueOf.invariant.obeys_expression _ body
    refine obeys.bind ?_ fun _ stopped => stopped [] rfl
    -- outside all parentheses, the parentheses that are left are those that are unpaired
    intro parsed left
    rw [left [] rfl]
    split
    · trivial
    · rename_i token following found
      rw [found]
      split
      · rename_i closes
        rintro _ ⟨⟩
        exact Token.stray_unpairedFrom_closing closes
      · rintro _ ⟨⟩
        trivial

/-- Parentheses are reported as unmatched only if they are unbalanced, and the input as incomplete
only if they are balanced; a parenthesis that is named as stray is the first one that closes nothing,
and one that is named as unclosed is the last one that nothing closes. -/
theorem Expr.unpaired_of_ofTokens (limit : Int) (body : List Token) (last : Token)
    (ended : last.kind = .finish) (inner : ∀ t ∈ body, t.kind ≠ .finish) (cause : SyntaxError)
    (failed : ofTokens limit (body ++ [last]) = .error (.failure cause)) :
    (cause.kind = .unmatchedParenthesis → ¬Token.Balanced (body ++ [last])) ∧
      (cause.kind = .incompleteExpression → Token.Balanced (body ++ [last])) ∧
      (∀ position, cause = .strayClosing position →
        (unpaired (body ++ [last])).stray = some position) ∧
      ∀ opening, cause = .unclosed opening →
        (unpaired (body ++ [last])).unclosed.head? = some opening := by
  have truthful : Ensures _ _ (ofTokens limit (body ++ [last])) := trueOf_ofTokens ended inner
  rw [failed] at truthful
  have told : TrueOf (unpaired (body ++ [last])) cause := truthful cause rfl
  refine ⟨fun unmatched balanced => ?_, fun incomplete => ?_, ?_, ?_⟩
  · rw [Token.Balanced] at balanced
    rw [balanced] at told
    cases cause <;> simp [TrueOf, SyntaxError.kind] at told unmatched
  · cases cause <;> simp only [SyntaxError.kind, reduceCtorEq] at incomplete
    exact told
  · rintro position rfl
    exact told
  · rintro opening rfl
    exact told

/-- In `e)e` the parenthesis is the one that closes nothing. -/
theorem Expr.unpaired_of_stray_closing :
    ofTokens 64 ([⟨.name, "e", 0⟩, ⟨.rightParen, ")", 1⟩, ⟨.name, "e", 2⟩] ++ [⟨.finish, "", 3⟩]) =
        .error (.failure (.strayClosing 1)) ∧
      ¬Token.Balanced [⟨.name, "e", 0⟩, ⟨.rightParen, ")", 1⟩, ⟨.name, "e", 2⟩,
        ⟨.finish, "", 3⟩] ∧
      (unpaired [⟨.name, "e", 0⟩, ⟨.rightParen, ")", 1⟩, ⟨.name, "e", 2⟩,
        ⟨.finish, "", 3⟩]).stray = some 1 := by
  have failed : ofTokens 64 ([⟨.name, "e", 0⟩, ⟨.rightParen, ")", 1⟩, ⟨.name, "e", 2⟩] ++
      [⟨.finish, "", 3⟩]) = .error (.failure (.strayClosing 1)) := by
    cbv
  obtain ⟨unbalanced, -, stray, -⟩ := unpaired_of_ofTokens 64 _ _ rfl (by decide) _ failed
  exact ⟨failed, unbalanced rfl, stray 1 rfl⟩

end Reckoner
