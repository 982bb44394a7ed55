import Reckoner.Proofs.Parsing.Offender
import Reckoner.Proofs.Walk.Rules

/-!
# Walks are safe

A walk over tokens of which the last one is an end token comes to an end, whatever the other tokens
are.  It finds a token wherever it looks for one and an entry for each token that it looks up, and
it never gets behind the first end token, so that the tokens there do not matter.
-/

namespace Reckoner.Walk

open Reckoner.Expr (ofTokens)

namespace Course

variable (course : Course)

/-- The tokens in front of the end are parsed as a whole. -/
theorem follows_whole {start : Trail} {scope : Parsing.Scope} {front : List Token}
    (sees : course.Sees start scope front) :
    course.Follows start scope
      (do
        let parsed ← course.input.expression
        let token ← course.input.current
        if token.kind = .finish then return parsed
        else if token.kind = .rightParen then fail (.strayClosing token.position)
        else fail (.trailingInput token.text token.position))
      (Parsing.whole scope front) := by
  rw [Parsing.whole]
  apply (follows_expression sees).bind
  intro parsed after sees
  cases found : parsed.rest with
  | nil =>
      apply Follows.current_end (found ▸ sees)
      rw [if_pos course.ended, Parsing.exhausted, found]
      exact .pure sees rfl
  | cons token following =>
      have sees' := found ▸ sees
      apply Follows.current sees'
      rw [if_neg (sees'.inner token List.mem_cons_self), Parsing.exhausted, found]
      dsimp only
      split
      · exact .fail sees rfl
      · exact .fail sees rfl

/-- A walk over all tokens ends as parsing them does, in front of the end token. -/
theorem run_parse (inner : ∀ t ∈ course.body, t.kind ≠ .finish)
    (closed : (course.last :: course.others).getLast?.map (·.kind) = some .finish) :
    ∃ after, run course.input.parse origin =
        some ((ofTokens course.limit course.tokens).mapError .fault, after) ∧
      after.stand.cursor ≤ course.body.length ∧
      ∀ fault, ofTokens course.limit course.tokens = .error fault →
        course.Accounts after.stand fault := by
  have ended : course.input.tokens.getLast?.map (·.kind) = some .finish := by
    rw [input, tokens, List.getLast?_append, Option.map_or, closed]
    rfl
  rw [Input.parse, if_pos ended]
  by_cases nonempty : course.body = []
  · have first : course.input.tokens.head?.map (·.kind) = some .finish := by
      simp [input, tokens, nonempty, course.ended]
    have empty : ofTokens course.limit course.tokens = Parsing.fail .emptyExpression := by
      rw [tokens, Expr.ofTokens_append_end course.ended inner closed, nonempty]
      exact Expr.ofTokens_end course.ended
    rw [if_pos first, empty]
    refine ⟨origin, rfl, Nat.zero_le _, ?_⟩
    rintro _ ⟨⟩
    exact accounts_failure _ _
  · have first : course.input.tokens.head?.map (·.kind) ≠ some .finish := by
      obtain ⟨token, following, front⟩ := List.exists_cons_of_ne_nil nonempty
      have other := inner token (front ▸ List.mem_cons_self)
      simpa [input, tokens, front] using other
    have whole : ofTokens course.limit course.tokens = _ :=
      Expr.ofTokens_eq_whole course.ended inner nonempty closed
    have follows : course.Follows origin ⟨course.limit, course.last.position, 0, 0⟩ _
        (Parsing.whole _ course.body) :=
      course.follows_whole ⟨Nat.zero_le _, rfl, inner, rfl⟩
    rw [if_neg first, whole]
    cases outcome : Parsing.whole ⟨course.limit, course.last.position, 0, 0⟩ course.body with
    | ok parsed =>
        rw [outcome] at follows
        obtain ⟨after, same, back⟩ := follows
        refine ⟨after, same, back.sees.bound, ?_⟩
        rintro _ ⟨⟩
    | error fault =>
        rw [outcome] at follows
        obtain ⟨after, same, stopped⟩ := follows
        refine ⟨after, same, stopped.bound, ?_⟩
        rintro _ ⟨⟩
        exact stopped.accounts

/-- The course without the tokens behind its end. -/
def cut (course : Course) : Course := { course with others := [] }

end Course

/-- The tokens up to the first end token. -/
def upToEnd (tokens : List Token) : List Token :=
  tokens.take (tokens.findIdx (·.kind = .finish) + 1)

/-- The course over tokens up to the first end token. -/
theorem exists_course (limit : Int) {tokens : List Token}
    (ended : tokens.getLast?.map (·.kind) = some .finish) :
    ∃ course : Course, course.limit = limit ∧ course.tokens = tokens ∧
      (∀ t ∈ course.body, t.kind ≠ .finish) ∧
      (course.last :: course.others).getLast?.map (·.kind) = some .finish ∧
      tokens.findIdx (·.kind = .finish) = course.body.length ∧
      upToEnd tokens = course.cut.tokens := by
  obtain ⟨body, last, others, rfl, inner, finish, closed⟩ := exists_first_finish ended
  have none : body.findIdx (fun t => decide (t.kind = .finish)) = body.length :=
    List.findIdx_eq_length.2 (by simpa using inner)
  have index : (body ++ last :: others).findIdx (·.kind = .finish) = body.length := by
    simp [List.findIdx_append, List.findIdx_cons, none, finish]
  refine ⟨⟨limit, body, last, others, finish⟩, rfl, rfl, inner, closed, index, ?_⟩
  rw [upToEnd, index, List.take_length_add_append]
  rfl

/-- A walk over tokens that end with an end token ends as parsing them does: with a tree, for a
syntax error, or for misuse at the numeral that it has just passed.  It does not get behind the
first end token, and cut off there, the tokens lead to the same end. -/
theorem run_parse_eq_ofTokens (limit : Int) (tokens : List Token)
    (ended : tokens.getLast?.map (·.kind) = some .finish) :
    (∃ after, run (Input.parse ⟨limit, tokens⟩) origin =
        some ((ofTokens limit tokens).mapError .fault, after) ∧
      after.stand.cursor ≤ tokens.findIdx (·.kind = .finish) ∧
      ∀ cause, ofTokens limit tokens = .error (.misuse cause) → ∃ i token,
        after.stand.cursor = i + 1 ∧ tokens[i]? = some token ∧ token.kind = .number ∧
        Decimal.readNumber? token.text = none ∧ cause = .unreadableNumeral token.text) ∧
    ofTokens limit (upToEnd tokens) = ofTokens limit tokens ∧
    (run (Input.parse ⟨limit, upToEnd tokens⟩) origin).map (·.1) =
      (run (Input.parse ⟨limit, tokens⟩) origin).map (·.1) := by
  obtain ⟨course, rfl, rfl, inner, closed, index, cut⟩ := exists_course limit ended
  obtain ⟨after, ends, bound, accounts⟩ := course.run_parse inner closed
  rw [cut]
  have same : ofTokens course.limit course.cut.tokens = ofTokens course.limit course.tokens :=
    (Expr.ofTokens_append_end course.ended inner closed).symm
  obtain ⟨after', ends', -⟩ := course.cut.run_parse inner (by simp [Course.cut, course.ended])
  refine ⟨⟨after, ends, index ▸ bound, ?_⟩, same, ?_⟩
  · intro cause misused
    obtain ⟨i, token, passed, found, kind, unreadable, named⟩ := accounts _ misused cause rfl
    refine ⟨i, token, passed, ?_, kind, unreadable, named⟩
    rw [Course.tokens, List.getElem?_append_left (by omega)]
    exact found
  · change (run course.cut.input.parse origin).map (·.1) = (run course.input.parse origin).map (·.1)
    rw [ends, ends']
    exact congrArg (fun outcome => some (outcome.mapError Stop.fault)) same

/-- The numeral `1x` behind a minus sign is misused.  What stands behind the first of two end tokens
makes no difference. -/
theorem run_parse_misused_numeral :
    (∃ after, run (Input.parse ⟨64, [⟨.minus, "-", 0⟩, ⟨.number, "1x", 1⟩, ⟨.finish, "", 3⟩,
        ⟨.rightParen, ")", 4⟩, ⟨.finish, "", 5⟩]⟩) origin =
          some (.error (.fault (.misuse (.unreadableNumeral "1x"))), after) ∧
        after.stand.cursor = 2) ∧
      (run (Input.parse ⟨64, [⟨.minus, "-", 0⟩, ⟨.number, "1x", 1⟩, ⟨.finish, "", 3⟩]⟩) origin).map
        (·.1) = some (.error (.fault (.misuse (.unreadableNumeral "1x")))) := by
  have misused : ofTokens 64 [⟨.minus, "-", 0⟩, ⟨.number, "1x", 1⟩, ⟨.finish, "", 3⟩,
      ⟨.rightParen, ")", 4⟩, ⟨.finish, "", 5⟩] = .error (.misuse (.unreadableNumeral "1x")) := by
    have unreadable : Decimal.readNumber? "1x" = none := rfl
    have front : ofTokens 64 ([⟨.minus, "-", 0⟩, ⟨.number, "1x", 1⟩] ++ ⟨.finish, "", 3⟩ ::
        [⟨.rightParen, ")", 4⟩, ⟨.finish, "", 5⟩]) = _ :=
      Expr.ofTokens_append_cons rfl (by decide) (by decide) rfl
    refine front.trans ?_
    simp [Parsing.expression, Parsing.term, Parsing.factor, Parsing.power, Parsing.operand,
      Parsing.Scope.deeper, unreadable, bind, Except.bind]
  obtain ⟨⟨after, ends, bound, numeral⟩, -, cut⟩ := run_parse_eq_ofTokens 64
    [⟨.minus, "-", 0⟩, ⟨.number, "1x", 1⟩, ⟨.finish, "", 3⟩, ⟨.rightParen, ")", 4⟩,
      ⟨.finish, "", 5⟩] rfl
  rw [ends, misused] at cut
  rw [misused] at ends
  obtain ⟨i, token, passed, found, kind, -⟩ := numeral _ misused
  refine ⟨⟨after, ends, ?_⟩, cut⟩
  change after.stand.cursor ≤ 2 at bound
  -- the only numeral in front of the end is the second token
  rcases i with _ | i
  · cases found
    cases kind
  · omega

end Reckoner.Walk
