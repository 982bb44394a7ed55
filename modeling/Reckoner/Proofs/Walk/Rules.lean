import Reckoner.Proofs.Parsing.Steps
import Reckoner.Proofs.Walk.Steps

/-!
# Walks follow the rules

Each routine of a walk does what the rule of the parser does that it is named after, with the scope
and the tokens that the rule would be handed there.

## Implementation notes

The routines call each other without a measure.  The theorems about them have that of the rules, the
number of tokens in front of the end and the rank of the rule, so that they also show that every
walk in front of an end token ends.
-/

namespace Reckoner.Walk.Course

open Parsing

variable {course : Course}

mutual

theorem follows_expression {start : Trail} {scope : Scope} {front : List Token}
    (sees : course.Sees start scope front) :
    course.Follows start scope course.input.expression
      (Parsing.expression scope front) := by
  rw [Input.expression, Parsing.expression]
  refine .note sees nofun fun sees => ?_
  apply (follows_term sees).bind
  intro first after sees
  have := first.rest_lt
  exact follows_sum sees
termination_by (front.length, 5)

theorem follows_sum {start : Trail} {scope : Scope} {b : Nat} {left : Parsed Expr b}
    (sees : course.Sees start scope left.rest) :
    course.Follows start scope (course.input.sum left.value)
      (Parsing.sum scope left) := by
  rw [Input.sum]
  cases found : left.rest with
  | nil =>
      rw [Parsing.sum_eq_ok scope (by simp [found])]
      apply Follows.current_end (found ▸ sees)
      rw [course.ended]
      exact .pure sees rfl
  | cons token following =>
      apply Follows.current (found ▸ sees)
      cases kind : additive? token.kind with
      | none =>
          rw [Parsing.sum_eq_ok scope (by simp [found, kind])]
          exact .pure sees rfl
      | some operator =>
          obtain ⟨join, joined, step⟩ := Parsing.sum_eq_bind scope found kind
          have fewer : following.length < left.rest.length := by simp [found]
          rw [step, if_pos Option.isSome_some]
          refine .advance (found ▸ sees) fun sees => ?_
          rw [kind]
          apply (follows_term sees).bind
          intro right after sees
          obtain ⟨value, rest⟩ := joined right
          have shorter : (join right).rest.length < left.rest.length := by
            rw [rest]
            exact Nat.lt_trans right.rest_lt fewer
          rw [← value]
          exact follows_sum (rest ▸ sees)
termination_by (left.rest.length, 0)

theorem follows_term {start : Trail} {scope : Scope} {front : List Token}
    (sees : course.Sees start scope front) :
    course.Follows start scope course.input.term (Parsing.term scope front) := by
  rw [Input.term, Parsing.term]
  refine .note sees nofun fun sees => ?_
  apply (follows_factor sees).bind
  intro first after sees
  have := first.rest_lt
  exact follows_product sees
termination_by (front.length, 4)

theorem follows_product {start : Trail} {scope : Scope} {b : Nat} {left : Parsed Expr b}
    (sees : course.Sees start scope left.rest) :
    course.Follows start scope (course.input.product left.value)
      (Parsing.product scope left) := by
  rw [Input.product]
  cases found : left.rest with
  | nil =>
      rw [Parsing.product_eq_ok scope (by simp [found])]
      apply Follows.current_end (found ▸ sees)
      rw [course.ended]
      exact .pure sees rfl
  | cons token following =>
      apply Follows.current (found ▸ sees)
      cases kind : multiplicative? token.kind with
      | none =>
          rw [Parsing.product_eq_ok scope (by simp [found, kind])]
          exact .pure sees rfl
      | some operator =>
          obtain ⟨join, joined, step⟩ := Parsing.product_eq_bind scope found kind
          have fewer : following.length < left.rest.length := by simp [found]
          rw [step, if_pos Option.isSome_some]
          refine .advance (found ▸ sees) fun sees => ?_
          rw [kind]
          apply (follows_factor sees).bind
          intro right after sees
          obtain ⟨value, rest⟩ := joined right
          have shorter : (join right).rest.length < left.rest.length := by
            rw [rest]
            exact Nat.lt_trans right.rest_lt fewer
          rw [← value]
          exact follows_product (rest ▸ sees)
termination_by (left.rest.length, 0)

theorem follows_factor {start : Trail} {scope : Scope} {front : List Token}
    (sees : course.Sees start scope front) :
    course.Follows start scope course.input.factor
      (Parsing.factor scope front) := by
  rw [Input.factor]
  refine .note sees nofun fun sees => ?_
  match front with
  | [] =>
      rw [Parsing.factor]
      refine .refuse sees nofun nofun ?_
      exact follows_power sees
  | token :: following =>
      rw [Parsing.factor]
      split
      · rename_i minus
        refine .accept sees minus fun sees => ?_
        apply Follows.deeper sees fun inner below => follows_factor below
        intro operand after sees
        exact .pure sees rfl
      · rename_i other
        refine .refuse sees nofun ?_ (follows_power sees)
        rintro _ _ ⟨⟩
        exact other
termination_by (front.length, 3)

theorem follows_power {start : Trail} {scope : Scope} {front : List Token}
    (sees : course.Sees start scope front) :
    course.Follows start scope course.input.power (Parsing.power scope front) := by
  rw [Input.power, Parsing.power_eq_bind]
  refine .note sees nofun fun sees => ?_
  apply (follows_operand sees).bind
  intro base after sees
  have fewer := base.rest_lt
  by_cases raised : ∃ token following, base.rest = token :: following ∧ token.kind = .caret
  · obtain ⟨token, following, found, caret⟩ := raised
    obtain ⟨join, joined, step⟩ := Parsing.raise_eq_bind scope found caret
    have shorter : following.length < front.length := by
      rw [found, List.length_cons] at fewer
      omega
    rw [step]
    refine .accept (found ▸ sees) caret fun sees => ?_
    apply Follows.deeper sees fun inner below => follows_factor below
    intro exponent after sees
    obtain ⟨value, rest⟩ := joined exponent
    exact .pure (rest ▸ sees) value
  · simp only [not_exists, not_and] at raised
    rw [Parsing.raise_eq_ok scope raised]
    exact .refuse sees nofun raised (.pure sees rfl)
termination_by (front.length, 2)

theorem follows_operand {start : Trail} {scope : Scope} {front : List Token}
    (sees : course.Sees start scope front) :
    course.Follows start scope course.input.operand
      (Parsing.operand scope front) := by
  rw [Input.operand]
  refine .note sees nofun fun sees => ?_
  match front with
  | [] =>
      rw [Parsing.operand]
      apply Follows.current_end sees
      rw [course.ended]
      exact .unexpected sees .operand
  | token :: following =>
      rw [Parsing.operand]
      apply Follows.current sees
      cases kind : token.kind with
      | number =>
          refine .advance sees fun sees' => ?_
          cases read : Decimal.readNumber? token.text with
          | some value => exact .pure sees' rfl
          | none => exact .misuse sees kind read
      | leftParen =>
          refine .advance sees fun sees => ?_
          apply Follows.inside sees fun inner below => follows_expression below
          intro grouped after sees
          exact .pure sees rfl
      | name =>
          cases known : Builtin.ofName? token.text with
          | some function =>
              exact (follows_call sees kind known).repack fun called => ⟨rfl, rfl⟩
          | none =>
              cases found : Constant.ofName? token.text with
              | some constant =>
                  refine .advance sees fun sees => ?_
                  exact .pure sees rfl
              | none => exact .fail sees rfl
      | _ => exact .unexpected sees .operand
termination_by (front.length, 1)

theorem follows_call {start : Trail} {scope : Scope} {name : Token} {following : List Token}
    {function : Builtin} (sees : course.Sees start scope (name :: following))
    (named : name.kind = .name) (known : Builtin.ofName? name.text = some function) :
    course.Follows start scope course.input.call
      (Parsing.call scope name.position function following) := by
  rw [Input.call]
  have admits : Admits course.tokens (.call, start.stand) := by
    intro _ name' found _
    cases sees.current.symm.trans found
    exact named
  refine .note sees admits fun sees => ?_
  refine .advance sees fun sees => ?_
  rw [known, ← Builtin.name_eq_of_ofName? known]
  change course.Follows _ scope (do
    let opening ← course.input.expectOpening (.argumentsOf function.name)
    _) _
  match following with
  | [] =>
      rw [Parsing.call]
      exact .expectOpening_fail sees nofun _
  | token :: following =>
      rw [Parsing.call]
      split
      · rename_i opens
        refine .expectOpening sees opens _ fun sees => ?_
        apply Follows.inside sees fun inner below => follows_arguments below
        intro listed after sees
        split
        · exact .pure sees rfl
        · exact .fail sees rfl
      · rename_i other
        refine .expectOpening_fail sees ?_ _
        rintro _ _ ⟨⟩
        exact other
termination_by (following.length, 0)

theorem follows_arguments {start : Trail} {scope : Scope} {front : List Token}
    (sees : course.Sees start scope front) :
    course.Follows start scope course.input.arguments
      (Parsing.arguments scope front) := by
  have further : course.Follows start scope
      (do course.input.furtherArguments [← course.input.expression])
      (do
        let first ← Parsing.expression scope front
        Parsing.furtherArguments scope
          (⟨[first.value], first.rest, Nat.lt_succ_of_lt first.rest_lt⟩ :
            Parsed (List Expr) (front.length + 1))) := by
    apply (follows_expression sees).bind
    intro first after sees
    have := first.rest_lt
    exact follows_furtherArguments sees
  rw [Input.arguments, Parsing.arguments]
  match front, sees, further with
  | [], sees, further =>
      apply Follows.current_end sees
      rw [course.ended, if_neg nofun, if_neg nofun]
      exact further
  | token :: following, sees, further =>
      apply Follows.current sees
      by_cases closes : token.kind = .rightParen
      · rw [if_pos closes, if_pos (by simp [closes])]
        exact .pure sees rfl
      · rw [if_neg closes, if_neg (by simp [closes])]
        exact further
termination_by (front.length, 6)

theorem follows_furtherArguments {start : Trail} {scope : Scope} {b : Nat}
    {found : Parsed (List Expr) b} (sees : course.Sees start scope found.rest) :
    course.Follows start scope (course.input.furtherArguments found.value)
      (Parsing.furtherArguments scope found) := by
  rw [Input.furtherArguments]
  by_cases more : ∃ token following, found.rest = token :: following ∧ token.kind = .comma
  · obtain ⟨token, following, behind, comma⟩ := more
    obtain ⟨extend, extended, step⟩ := Parsing.furtherArguments_eq_bind scope behind comma
    have fewer : following.length < found.rest.length := by simp [behind]
    rw [step]
    refine .accept (behind ▸ sees) comma fun sees => ?_
    apply (follows_expression sees).bind
    intro next after sees
    obtain ⟨value, rest⟩ := extended next
    have shorter : (extend next).rest.length < found.rest.length := by
      rw [rest]
      exact Nat.lt_trans next.rest_lt fewer
    rw [← value]
    exact follows_furtherArguments (rest ▸ sees)
  · simp only [not_exists, not_and] at more
    rw [Parsing.furtherArguments_eq_ok scope more]
    exact .refuse sees nofun more (.pure sees rfl)
termination_by (found.rest.length, 0)

end

end Reckoner.Walk.Course
