import Reckoner.Proofs.Parsing.Nesting
import Reckoner.Proofs.Parsing.Phrase
import Reckoner.Proofs.Walk.Safety

/-!
# Routines restore the counters

Wherever a walk stands, a routine that succeeds has passed a phrase, whose parentheses nest well,
and has come back to the level where it began.  Each routine that it enters on the way, whether it
succeeds or not, is entered within the limit and with no more open parentheses than levels.

## Implementation notes

`Parses` says what parsing makes of the tokens in front of the next end token, for each rule and for
calls.  Two sorts of walks do not follow any parse and stop where they begin: a walk that stands at
no token, which `Lost` is about, and a call at a token that is not spelled like a function.
-/

namespace Reckoner.Walk

open Parsing (Parsed Scope)

/-- The rule that a routine is named after parses the tokens as a tree in front of a rest. -/
inductive Parses (scope : Scope) : Routine → List Token → Expr → List Token → Prop
  | expression {tokens parsed} : Parsing.expression scope tokens = .ok parsed →
      Parses scope .expression tokens parsed.value parsed.rest
  | term {tokens parsed} : Parsing.term scope tokens = .ok parsed →
      Parses scope .term tokens parsed.value parsed.rest
  | factor {tokens parsed} : Parsing.factor scope tokens = .ok parsed →
      Parses scope .factor tokens parsed.value parsed.rest
  | power {tokens parsed} : Parsing.power scope tokens = .ok parsed →
      Parses scope .power tokens parsed.value parsed.rest
  | operand {tokens parsed} : Parsing.operand scope tokens = .ok parsed →
      Parses scope .operand tokens parsed.value parsed.rest
  | call {name function tokens parsed} : name.kind = .name →
      Builtin.ofName? name.text = some function →
      Parsing.call scope name.position function tokens = .ok parsed →
      Parses scope .call (name :: tokens) parsed.value parsed.rest

section Phrases

variable {scope : Scope} {tokens rest : List Token} {e : Expr} {routine : Routine}

theorem derives_of_recognises {rule : Rule} {b : Nat} {parsed : Parsed Expr b}
    {outcome : Parsing.Outcome (Parsed Expr b)}
    (h : Parsing.Recognises rule scope tokens outcome) (same : outcome = .ok parsed) :
    ∃ rule n consumed, tokens = consumed ++ parsed.rest ∧ Derives rule n consumed parsed.value := by
  rw [same] at h
  obtain ⟨n, consumed, whole, derived, -⟩ := h
  exact ⟨rule, n, consumed, whole, derived⟩

/-- What has been parsed is a phrase. -/
theorem Parses.exists_derives (h : Parses scope routine tokens e rest) :
    ∃ rule n consumed, tokens = consumed ++ rest ∧ Derives rule n consumed e := by
  cases h with
  | expression same => exact derives_of_recognises (Parsing.recognises_expression scope tokens) same
  | term same => exact derives_of_recognises (Parsing.recognises_term scope tokens) same
  | factor same => exact derives_of_recognises (Parsing.recognises_factor scope tokens) same
  | power same => exact derives_of_recognises (Parsing.recognises_power scope tokens) same
  | operand same => exact derives_of_recognises (Parsing.recognises_operand scope tokens) same
  | @call name function tokens parsed kind known same =>
      have sound : Ensures _ _ _ := Parsing.ensures_call scope name.position function tokens
      rw [same] at sound
      obtain ⟨n, consumed, whole, derived, -⟩ := sound
      exact ⟨.operand, n, name :: consumed, congrArg (name :: ·) whole,
        derived name kind (Builtin.name_eq_of_ofName? known).symm⟩

end Phrases

section Loss

variable {limit : Int} {tokens : List Token} {α β : Type} {walk : Walk α}

/-- The walk is at a loss where there is no token, and stops there. -/
def Lost (limit : Int) (tokens : List Token) (walk : Walk α) : Prop :=
  ∀ start, tokens[start.stand.cursor]? = none →
    ∃ after, run walk start = some (.error .noToken, after) ∧ Since limit tokens start after

theorem Lost.bind (h : Lost limit tokens walk) (f : α → Walk β) :
    Lost limit tokens (walk >>= f) := by
  intro start missing
  obtain ⟨after, stopped, since⟩ := h start missing
  exact ⟨after, run_bind_error stopped, since⟩

theorem Lost.note (h : Lost limit tokens walk) (routine : Routine) :
    Lost limit tokens (do Walk.note routine; walk) := by
  intro start missing
  obtain ⟨after, stopped, since⟩ := h (start.enter routine) missing
  refine ⟨after, (run_bind_ok (run_note routine start)).trans stopped, ?_⟩
  refine (since_enter fun _ name found => ?_).trans (.of_eq rfl rfl) since
  cases missing.symm.trans found

theorem lost_current : Lost limit tokens (Input.current ⟨limit, tokens⟩) := by
  intro start missing
  refine ⟨start, ?_, .of_eq rfl⟩
  rw [Input.current, run_bind_ok (run_get start), missing]
  rfl

/-- Every routine looks for a token before it does anything else. -/
theorem lost_walk (routine : Routine) : Lost limit tokens (Input.walk ⟨limit, tokens⟩ routine) := by
  have operand : Lost limit tokens (Input.operand ⟨limit, tokens⟩) := by
    rw [Input.operand]
    exact (lost_current.bind _).note _
  have power : Lost limit tokens (Input.power ⟨limit, tokens⟩) := by
    rw [Input.power]
    exact (operand.bind _).note _
  have factor : Lost limit tokens (Input.factor ⟨limit, tokens⟩) := by
    rw [Input.factor]
    exact ((lost_current.bind _).bind _).note _
  have term : Lost limit tokens (Input.term ⟨limit, tokens⟩) := by
    rw [Input.term]
    exact (factor.bind _).note _
  cases routine with
  | expression =>
      rw [Input.walk, Input.expression]
      exact (term.bind _).note _
  | term => exact term
  | factor => exact factor
  | power => exact power
  | operand => exact operand
  | call =>
      rw [Input.walk, Input.call]
      exact ((lost_current.bind _).bind _).note _

/-- A call at a token that is not spelled like a function finds no entry. -/
theorem run_call_unknown (start : Trail) {name : Token}
    (found : tokens[start.stand.cursor]? = some name) (unknown : Builtin.ofName? name.text = none) :
    ∃ after, run (Input.call ⟨limit, tokens⟩) start = some (.error .noEntry, after) ∧
      Since limit tokens start after := by
  have admits : Admits tokens (.call, start.stand) := by
    intro _ name' found' known
    cases found.symm.trans found'
    exact absurd unknown known
  have looked : run (Input.current ⟨limit, tokens⟩) (start.enter .call) =
      some (.ok name, start.enter .call) := run_current found
  obtain ⟨mid, passed, same⟩ : ∃ mid,
      run (Input.advance ⟨limit, tokens⟩) (start.enter .call) = some (.ok name, mid) ∧
        mid.entered = (start.enter .call).entered := by
    rw [Input.advance, run_bind_ok looked]
    exact ⟨_, rfl, rfl⟩
  refine ⟨mid, ?_, (since_enter admits).trans (.of_eq rfl rfl) (.of_eq same)⟩
  rw [Input.call, run_bind_ok (run_note .call start), run_bind_ok passed, unknown]
  rfl

end Loss

namespace Course

variable {course : Course} {start after : Trail} {scope : Scope} {front rest : List Token}
  {routine : Routine} {e : Expr} {b : Nat}

/-- The walk of the routine comes to an end, and if it succeeds, it comes back to the scope behind
what the rule parses. -/
def Completes (course : Course) (start : Trail) (scope : Scope) (routine : Routine)
    (front : List Token) : Prop :=
  ∃ outcome after, run (course.input.walk routine) start = some (outcome, after) ∧
    Since course.limit course.tokens start after ∧
    ∀ e, outcome = .ok e →
      ∃ rest, Parses scope routine front e rest ∧ course.Back start scope after rest

theorem Follows.completes {outcome : Parsing.Outcome (Parsed Expr b)}
    (follows : course.Follows start scope (course.input.walk routine) outcome)
    (parses : ∀ parsed, outcome = .ok parsed →
      Parses scope routine front parsed.value parsed.rest) :
    course.Completes start scope routine front := by
  cases outcome with
  | ok parsed =>
      obtain ⟨after, same, back⟩ := follows
      refine ⟨_, after, same, back.since, ?_⟩
      rintro _ ⟨⟩
      exact ⟨_, parses parsed rfl, back⟩
  | error fault =>
      obtain ⟨after, same, stopped⟩ := follows
      exact ⟨_, after, same, stopped.since, nofun⟩

theorem Sees.completes (sees : course.Sees start scope front) (routine : Routine)
    (named : routine = .call → ∃ name following function, front = name :: following ∧
      name.kind = .name ∧ Builtin.ofName? name.text = some function) :
    course.Completes start scope routine front := by
  cases routine with
  | expression => exact (follows_expression sees).completes fun _ => .expression
  | term => exact (follows_term sees).completes fun _ => .term
  | factor => exact (follows_factor sees).completes fun _ => .factor
  | power => exact (follows_power sees).completes fun _ => .power
  | operand => exact (follows_operand sees).completes fun _ => .operand
  | call =>
      obtain ⟨name, following, function, rfl, kind, known⟩ := named rfl
      exact (follows_call sees kind known).completes fun _ => .call kind known

/-- The course from a cursor to the next end token. -/
theorem exists_of_ended (limit : Int) {tokens : List Token} {cursor : Nat}
    (ended : tokens.getLast?.map (·.kind) = some .finish) (inside : cursor < tokens.length) :
    ∃ course : Course, course.limit = limit ∧ course.tokens = tokens ∧
      cursor ≤ course.body.length ∧ ∀ t ∈ course.body.drop cursor, t.kind ≠ .finish := by
  have rest : (tokens.drop cursor).getLast?.map (·.kind) = some .finish := by
    rw [List.getLast?_drop, if_neg (by omega)]
    exact ended
  obtain ⟨front, last, others, found, inner, finish, -⟩ := exists_first_finish rest
  have passed : (tokens.take cursor).length = cursor := by
    rw [List.length_take]
    omega
  refine ⟨⟨limit, tokens.take cursor ++ front, last, others, finish⟩, rfl, ?_, ?_, ?_⟩
  · rw [Course.tokens, List.append_assoc, ← found, List.take_append_drop]
  · rw [List.length_append, passed]
    omega
  · rw [List.drop_left' passed]
    exact inner

/-- A call that is admitted starts at the name of a function, if it starts at one that is known. -/
theorem Sees.exists_name {token : Token} (sees : course.Sees start scope front)
    (found : course.tokens[start.stand.cursor]? = some token)
    (admits : Admits course.tokens (.call, start.stand))
    (known : Builtin.ofName? token.text ≠ none) :
    ∃ name following function, front = name :: following ∧ name.kind = .name ∧
      Builtin.ofName? name.text = some function := by
  have kind := admits rfl token found known
  obtain ⟨function, same⟩ := Option.ne_none_iff_exists'.1 known
  cases sees.current.symm.trans found
  cases front with
  | nil => cases course.ended.symm.trans kind
  | cons name following => exact ⟨name, following, function, rfl, kind, same⟩

/-- The tokens that the walk has passed are those that were consumed. -/
theorem Sees.extract_eq {scope' : Scope} {consumed : List Token}
    (sees : course.Sees start scope front) (sees' : course.Sees after scope' rest)
    (whole : front = consumed ++ rest) :
    after.stand.cursor = start.stand.cursor + consumed.length ∧
      course.tokens.extract start.stand.cursor after.stand.cursor = consumed := by
  have length := congrArg List.length (sees.drop_eq.trans whole)
  have length' := congrArg List.length sees'.drop_eq
  have := sees.bound
  have := sees'.bound
  rw [List.length_drop, List.length_append] at length
  rw [List.length_drop] at length'
  have passed : after.stand.cursor = start.stand.cursor + consumed.length := by omega
  refine ⟨passed, ?_⟩
  rw [List.extract_eq_take_drop, passed, Nat.add_sub_cancel_left, tokens,
    List.drop_append_of_le_length sees.bound, sees.drop_eq, whole, List.append_assoc,
    List.take_left]

end Course

/-- What a routine that succeeds with a tree has done between two stands: it has passed a phrase for
the tree, and is back on the level where it began. -/
structure Restores (limit : Int) (tokens : List Token) (routine : Routine) (before : Stand)
    (e : Expr) (after : Stand) : Prop where
  advanced : before.cursor < after.cursor
  bound : after.cursor < tokens.length
  depth : after.depth = before.depth
  parentheses : after.parentheses = before.parentheses
  inner : ∀ t ∈ tokens.extract before.cursor after.cursor, t.kind ≠ .finish
  nested : Token.WellNested (tokens.extract before.cursor after.cursor)
  /-- The tree is what the rule parses there, in front of the next end token. -/
  parses : ∃ rest last others, tokens.drop after.cursor = rest ++ last :: others ∧
    last.kind = .finish ∧ (∀ t ∈ rest, t.kind ≠ .finish) ∧
    Parses ⟨limit, last.position, before.depth, before.parentheses⟩ routine
      (tokens.extract before.cursor after.cursor ++ rest) e rest

theorem Course.Back.restores {course : Course} {start after : Trail} {scope : Scope}
    {front rest : List Token} {routine : Routine} {e : Expr}
    (back : course.Back start scope after rest) (sees : course.Sees start scope front)
    (parses : Parses scope routine front e rest) :
    Restores course.limit course.tokens routine start.stand e after.stand := by
  obtain ⟨rule, n, consumed, rfl, derived⟩ := parses.exists_derives
  obtain ⟨passed, extracted⟩ := sees.extract_eq back.sees rfl
  obtain ⟨token, following, nonempty, -⟩ := derived.starts
  have := congrArg List.length nonempty
  have same := sees.scope_eq.symm.trans back.sees.scope_eq
  simp only [Scope.mk.injEq, true_and] at same
  constructor
  · simp only [List.length_cons] at this
    omega
  · have := back.sees.bound
    simp only [Course.tokens, List.length_append, List.length_cons]
    omega
  · exact same.1.symm
  · exact same.2.symm
  · rw [extracted]
    exact fun t mem => sees.inner t (List.mem_append_left rest mem)
  · rw [extracted]
    exact derived.neutral.wellNested
  · refine ⟨rest, course.last, course.others, ?_, course.ended, back.sees.inner, ?_⟩
    · rw [Course.tokens, List.drop_append_of_le_length back.sees.bound, back.sees.drop_eq]
    · rw [extracted, ← sees.scope_eq]
      exact parses

/-- The tokens of a text admit calls everywhere, since names alone are spelled like functions. -/
theorem admits_of_scan {source : String} {tokens : List Token}
    (scanned : Token.scan source = .ok tokens) (call : Routine × Stand) : Admits tokens call := by
  intro _ token found known
  obtain ⟨function, same⟩ := Option.ne_none_iff_exists'.1 known
  obtain ⟨front, rfl, lexemes⟩ := Token.eq_append_of_scan scanned
  rcases List.mem_append.1 (List.mem_of_getElem? found) with mem | mem
  · apply Token.kind_eq_name_of_isLexeme (lexemes token mem)
    rw [← Builtin.name_eq_of_ofName? same]
    exact function.isName_name
  · rw [List.mem_singleton.1 mem] at known
    exact absurd rfl known

/-- What has been entered since a walk began with nothing on its trail was entered in order. -/
theorem Since.of_mem {limit : Int} {tokens : List Token} {stand : Stand} {after : Trail}
    (since : Since limit tokens ⟨stand, []⟩ after) :
    ∀ call ∈ after.entered, (stand.depth ≤ limit → call.2.depth ≤ limit) ∧
      (stand.parentheses ≤ stand.depth → call.2.parentheses ≤ call.2.depth) ∧
      Admits tokens call := by
  obtain ⟨calls, entered, orderly⟩ := since
  intro call mem
  rw [entered, List.append_nil] at mem
  obtain ⟨within, admits⟩ := orderly call mem
  have levels : call.2.parentheses + stand.depth ≤ call.2.depth + stand.parentheses :=
    within.parentheses
  exact ⟨within.depth, fun _ => by omega, admits⟩

section Run

variable {limit : Int} {tokens : List Token} {routine : Routine} {stand : Stand}

/-- A routine comes to an end, with the counters restored if it succeeds, and has entered everything
in order. -/
theorem exists_run_walk (ended : tokens.getLast?.map (·.kind) = some .finish)
    (admits : Admits tokens (routine, stand)) :
    ∃ outcome after, run (Input.walk ⟨limit, tokens⟩ routine) ⟨stand, []⟩ = some (outcome, after) ∧
      (∀ e, outcome = .ok e → Restores limit tokens routine stand e after.stand) ∧
      Since limit tokens ⟨stand, []⟩ after := by
  cases found : tokens[stand.cursor]? with
  | none =>
      obtain ⟨after, stopped, since⟩ := lost_walk routine ⟨stand, []⟩ found
      exact ⟨_, after, stopped, nofun, since⟩
  | some token =>
      by_cases unknown : routine = .call ∧ Builtin.ofName? token.text = none
      · obtain ⟨rfl, unknown⟩ := unknown
        obtain ⟨after, stopped, since⟩ := run_call_unknown ⟨stand, []⟩ found unknown
        exact ⟨_, after, stopped, nofun, since⟩
      · obtain ⟨inside, -⟩ := List.getElem?_eq_some_iff.1 found
        obtain ⟨course, rfl, rfl, bound, inner⟩ := Course.exists_of_ended limit ended inside
        have sees : course.Sees ⟨stand, []⟩ _ _ := ⟨bound, rfl, inner, rfl⟩
        obtain ⟨outcome, after, ends, since, succeeds⟩ := sees.completes routine (by
          rintro rfl
          exact sees.exists_name found admits fun none => unknown ⟨rfl, none⟩)
        refine ⟨outcome, after, ends, fun e ok => ?_, since⟩
        obtain ⟨rest, parses, back⟩ := succeeds e ok
        exact back.restores sees parses

/-- Among the tokens of a text nothing has to be presupposed: every routine comes to an end from
everywhere, with the counters restored if it succeeds, and whatever it enters is entered in order. -/
theorem run_walk_of_scan {source : String} (scanned : Token.scan source = .ok tokens) :
    ∃ outcome after, run (Input.walk ⟨limit, tokens⟩ routine) ⟨stand, []⟩ = some (outcome, after) ∧
      (∀ e, outcome = .ok e → Restores limit tokens routine stand e after.stand) ∧
      Since limit tokens ⟨stand, []⟩ after := by
  have ended : tokens.getLast?.map (·.kind) = some .finish := by
    obtain ⟨front, rfl, -⟩ := Token.eq_append_of_scan scanned
    rw [List.getLast?_concat]
    rfl
  exact exists_run_walk ended (admits_of_scan scanned _)

end Run

/-- From wherever it is entered, a routine comes to an end.  If it succeeds, it has restored the
counters.  Whatever it enters on the way is entered within the limit, and with no more open
parentheses than levels, if the routine itself was.  Calls are entered at names alone, which is
presupposed of the first one and holds wherever the tokens are those of a text. -/
theorem run_walk_restores (limit : Int) (tokens : List Token)
    (ended : tokens.getLast?.map (·.kind) = some .finish) (routine : Routine) (stand : Stand)
    (admits : Admits tokens (routine, stand)) :
    ∃ outcome after, run (Input.walk ⟨limit, tokens⟩ routine) ⟨stand, []⟩ = some (outcome, after) ∧
      (∀ e, outcome = .ok e → Restores limit tokens routine stand e after.stand) ∧
      ∀ call ∈ after.entered, (stand.depth ≤ limit → call.2.depth ≤ limit) ∧
        (stand.parentheses ≤ stand.depth → call.2.parentheses ≤ call.2.depth) ∧
        Admits tokens call := by
  obtain ⟨outcome, after, ends, restores, since⟩ := exists_run_walk ended admits
  exact ⟨outcome, after, ends, restores, since.of_mem⟩

/-- The group `(e)` that is entered on the third level, behind one open parenthesis, is passed and
leaves the level and the number of parentheses as they were. -/
theorem run_walk_restores_group :
    ∃ after, run (Input.walk ⟨5, [⟨.leftParen, "(", 0⟩, ⟨.name, "e", 1⟩,
        ⟨.rightParen, ")", 2⟩, ⟨.finish, "", 3⟩]⟩ .operand) ⟨⟨0, 3, 1⟩, []⟩ =
          some (.ok (.constant "e" Constant.e.value), after) ∧ after.stand = ⟨3, 3, 1⟩ := by
  have grouped : Derives .operand 1 [⟨.leftParen, "(", 0⟩, ⟨.name, "e", 1⟩, ⟨.rightParen, ")", 2⟩]
      (.constant "e" Constant.e.value) :=
    .group rfl (.term (.factor (.power (.operand (.constant .e rfl rfl))))) rfl
  have yields : Parsing.Yields (Parsing.operand ⟨5, 3, 3, 1⟩ [⟨.leftParen, "(", 0⟩,
      ⟨.name, "e", 1⟩, ⟨.rightParen, ")", 2⟩]) _ [] :=
    Parsing.finds_of_derives grouped ⟨5, 3, 3, 1⟩ [] (.inr (by decide)) .operand
  have sees : Course.Sees ⟨5, [⟨.leftParen, "(", 0⟩, ⟨.name, "e", 1⟩, ⟨.rightParen, ")", 2⟩],
      ⟨.finish, "", 3⟩, [], rfl⟩ ⟨⟨0, 3, 1⟩, []⟩ ⟨5, 3, 3, 1⟩ [⟨.leftParen, "(", 0⟩,
      ⟨.name, "e", 1⟩, ⟨.rightParen, ")", 2⟩] := ⟨Nat.zero_le _, rfl, by decide, rfl⟩
  have follows := Course.follows_operand sees
  obtain ⟨_, after, ends, succeeds, -⟩ := run_walk_restores 5 [⟨.leftParen, "(", 0⟩,
    ⟨.name, "e", 1⟩, ⟨.rightParen, ")", 2⟩, ⟨.finish, "", 3⟩] rfl .operand ⟨0, 3, 1⟩ nofun
  generalize Parsing.operand _ _ = outcome at follows yields
  cases outcome with
  | error fault => exact yields.elim
  | ok parsed =>
      obtain ⟨value, rest⟩ := yields
      obtain ⟨_, same, back⟩ := follows
      rw [value] at same
      cases same.symm.trans ends
      have passed := List.drop_eq_nil_iff.1 (back.sees.drop_eq.trans rest)
      obtain ⟨-, bound, depth, parentheses, -⟩ := succeeds _ rfl
      refine ⟨after, ends, ?_⟩
      obtain ⟨⟨cursor, _, _⟩, _⟩ := after
      cases depth
      cases parentheses
      cases Nat.le_antisymm (Nat.le_of_lt_succ bound) passed
      rfl

end Reckoner.Walk
