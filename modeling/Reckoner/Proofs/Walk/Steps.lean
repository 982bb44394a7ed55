import Reckoner.Proofs.Parsing.Scope
import Reckoner.Proofs.Walk.Trail

/-!
# Steps of a walk

A walk over tokens does what parsing does with the tokens in front of the next end token.  For each
step that the routines are made of, the walk and the parse are compared: they end in the same value
or in the same fault, a walk that succeeds is back on the level where it began, and it never gets
behind the end token.

## Implementation notes

A `Course` fixes the tokens in front of an end token, that token, and those behind it, which a walk
could reach if it passed the end.  `Sees` says what parsing would be handed where the walk is: the
scope and the tokens that remain.  That a walk comes back to the same level is thus that it sees the
same scope again.  `Follows` compares a walk with the outcome of a parse, and the theorems about it
are rules of inference, one for each step.
-/

namespace Reckoner.Walk

open Parsing

/-- What a walk goes over: tokens in front of an end token, that token, and tokens behind it. -/
structure Course where
  /-- The greatest allowed depth. -/
  limit : Int
  /-- The tokens in front of the end token. -/
  body : List Token
  /-- The end token. -/
  last : Token
  /-- The tokens behind the end token. -/
  others : List Token
  ended : last.kind = .finish

namespace Course

variable (course : Course)

/-- All tokens of the course. -/
def tokens : List Token := course.body ++ course.last :: course.others

/-- What a walk over the course is given. -/
def input : Input := ⟨course.limit, course.tokens⟩

/-- What parsing is handed where the walk is: the scope, and the tokens in front of the end. -/
structure Sees (trail : Trail) (scope : Scope) (front : List Token) : Prop where
  bound : trail.stand.cursor ≤ course.body.length
  drop_eq : course.body.drop trail.stand.cursor = front
  inner : ∀ t ∈ front, t.kind ≠ .finish
  scope_eq : scope =
    ⟨course.limit, course.last.position, trail.stand.depth, trail.stand.parentheses⟩

/-- The walk has come back to the scope, in front of the rest. -/
structure Back (start : Trail) (scope : Scope) (after : Trail) (rest : List Token) : Prop where
  sees : course.Sees after scope rest
  within : Within course.limit start.stand after.stand
  since : Since course.limit course.tokens start after

/-- The last token passed is the numeral that was misused, if the fault is misuse. -/
def Accounts (stand : Stand) (fault : Fault SyntaxError) : Prop :=
  ∀ cause, fault = .misuse cause → ∃ i token, stand.cursor = i + 1 ∧
    course.body[i]? = some token ∧ token.kind = .number ∧
    Decimal.readNumber? token.text = none ∧ cause = .unreadableNumeral token.text

/-- The walk has stopped for the fault. -/
structure Stopped (start after : Trail) (fault : Fault SyntaxError) : Prop where
  bound : after.stand.cursor ≤ course.body.length
  accounts : course.Accounts after.stand fault
  since : Since course.limit course.tokens start after

/-- The walk ends like the parse in the scope: with the same value in front of the same rest, or
with the same fault. -/
def Follows (start : Trail) (scope : Scope) {α : Type} {b : Nat} (walk : Walk α) :
    Outcome (Parsed α b) → Prop :=
  Ensures
    (fun parsed => ∃ after, run walk start = some (.ok parsed.value, after) ∧
      course.Back start scope after parsed.rest)
    (fun fault => ∃ after, run walk start = some (.error (.fault fault), after) ∧
      course.Stopped start after fault)

variable {course} {α β : Type} {b c : Nat} {start mid after : Trail} {scope inner : Scope}
  {token : Token} {front rest following : List Token} {walk : Walk α} {f : α → Walk β} {a : α}
  {o : Outcome (Parsed α b)} {p : Outcome (Parsed β c)} {fault : Fault SyntaxError} {opened : Nat}

/-- A failure is no misuse. -/
theorem accounts_failure (stand : Stand) (cause : SyntaxError) :
    course.Accounts stand (.failure cause) := by
  intro _ same
  cases same

/-- The token at the cursor is the first of those that parsing is handed, or the end token. -/
theorem Sees.current (sees : course.Sees start scope front) :
    course.tokens[start.stand.cursor]? = some (front.headD course.last) := by
  obtain ⟨bound, rfl, -, -⟩ := sees
  rw [List.headD_eq_head?_getD, List.head?_drop, tokens, List.getElem?_append]
  split
  · rename_i inside
    rw [List.getElem?_eq_getElem inside, Option.getD_some]
  · rename_i outside
    have closed : start.stand.cursor = course.body.length := by omega
    simp [closed]

theorem Sees.next (sees : course.Sees start scope (token :: following)) :
    course.Sees start.next scope following := by
  obtain ⟨bound, found, inner, same⟩ := sees
  refine ⟨?_, ?_, fun t mem => inner t (List.mem_cons_of_mem _ mem), same⟩
  · refine Nat.succ_le_of_lt (Nat.lt_of_not_le fun outside => ?_)
    rw [List.drop_eq_nil_of_le outside] at found
    cases found
  · change course.body.drop (start.stand.cursor + 1) = following
    rw [← List.tail_drop, found, List.tail_cons]

theorem Sees.enter (sees : course.Sees start scope front) (routine : Routine) :
    course.Sees (start.enter routine) scope front :=
  ⟨sees.bound, sees.drop_eq, sees.inner, sees.scope_eq⟩

theorem Sees.run_current (sees : course.Sees start scope front) :
    run course.input.current start = some (.ok (front.headD course.last), start) :=
  Walk.run_current sees.current

theorem Sees.run_advance (sees : course.Sees start scope (token :: following)) :
    run course.input.advance start = some (.ok token, start.next) := by
  have bound : start.stand.cursor + 1 ≤ course.body.length := sees.next.bound
  exact Walk.run_advance sees.current (by simp [input, tokens]; omega)

theorem Back.refl (sees : course.Sees start scope front) : course.Back start scope start front :=
  ⟨sees, .of_eq rfl rfl, .of_eq rfl⟩

theorem Back.next (sees : course.Sees start scope (token :: following)) :
    course.Back start scope start.next following :=
  ⟨sees.next, .of_eq rfl rfl, .of_eq rfl⟩

theorem Back.trans (h : course.Back start scope mid front) (h' : course.Back mid scope after rest) :
    course.Back start scope after rest :=
  ⟨h'.sees, h.within.trans h'.within, h.since.trans h.within h'.since⟩

theorem Back.stopped (h : course.Back start scope mid front) (h' : course.Stopped mid after fault) :
    course.Stopped start after fault :=
  ⟨h'.bound, h'.accounts, h.since.trans h.within h'.since⟩

namespace Follows

/-- What a walk does behind steps that parsing does not know of, it does with them. -/
theorem behind (before : run walk start = some (.ok a, mid))
    (back : course.Back start scope mid front) (h : course.Follows mid scope (f a) p) :
    course.Follows start scope (walk >>= f) p := by
  apply Ensures.mono h
  · rintro parsed ⟨after, same, back'⟩
    exact ⟨after, (run_bind_ok before).trans same, back.trans back'⟩
  · rintro fault ⟨after, same, stopped⟩
    exact ⟨after, (run_bind_ok before).trans same, back.stopped stopped⟩

theorem bind {g : Parsed α b → Outcome (Parsed β c)} (h : course.Follows start scope walk o)
    (next : ∀ (parsed : Parsed α b) after, course.Sees after scope parsed.rest →
      course.Follows after scope (f parsed.value) (g parsed)) :
    course.Follows start scope (walk >>= f) (o >>= g) := by
  apply Ensures.bind h
  · rintro parsed ⟨after, same, back⟩
    exact behind same back (next parsed after back.sees)
  · rintro fault ⟨after, same, stopped⟩
    exact ⟨after, run_bind_error same, stopped⟩

theorem pure {parsed : Parsed α b} (sees : course.Sees start scope parsed.rest)
    (same : parsed.value = a) :
    course.Follows start scope (return a) (.ok parsed : Outcome (Parsed α b)) :=
  ⟨start, same ▸ rfl, .refl sees⟩

/-- A parsed value may be put in front of the same rest anew. -/
theorem repack {g : Parsed α b → Parsed α c} (h : course.Follows start scope walk o)
    (same : ∀ parsed, (g parsed).value = parsed.value ∧ (g parsed).rest = parsed.rest) :
    course.Follows start scope walk (do return g (← o)) := by
  rw [← bind_pure walk]
  apply h.bind
  intro parsed after sees
  obtain ⟨value, rest⟩ := same parsed
  exact pure (rest ▸ sees) value

theorem fail {cause cause' : SyntaxError} (sees : course.Sees start scope front)
    (same : cause = cause') :
    course.Follows start scope (Walk.fail cause : Walk α)
      (Parsing.fail cause' : Outcome (Parsed α b)) :=
  ⟨start, same ▸ rfl, sees.bound, accounts_failure _ _, .of_eq rfl⟩

/-- Misuse is reported right behind the numeral. -/
theorem misuse (sees : course.Sees start scope (token :: following)) (kind : token.kind = .number)
    (unreadable : Decimal.readNumber? token.text = none) :
    course.Follows start.next scope
      (throw (.fault (.misuse (.unreadableNumeral token.text))) : Walk α)
      (.error (.misuse (.unreadableNumeral token.text)) : Outcome (Parsed α b)) := by
  refine ⟨start.next, rfl, sees.next.bound, ?_, .of_eq rfl⟩
  rintro _ ⟨⟩
  refine ⟨start.stand.cursor, token, rfl, ?_, kind, unreadable, rfl⟩
  rw [← List.head?_drop, sees.drop_eq, List.head?_cons]

theorem note {routine : Routine} (sees : course.Sees start scope front)
    (admits : Admits course.tokens (routine, start.stand))
    (h : course.Sees (start.enter routine) scope front →
      course.Follows (start.enter routine) scope walk o) :
    course.Follows start scope (do Walk.note routine; walk) o :=
  behind (run_note routine start) ⟨sees.enter routine, .of_eq rfl rfl, since_enter admits⟩
    (h (sees.enter routine))

theorem current {f : Token → Walk α} (sees : course.Sees start scope (token :: following))
    (h : course.Follows start scope (f token) o) :
    course.Follows start scope (course.input.current >>= f) o :=
  behind sees.run_current (.refl sees) h

theorem current_end {f : Token → Walk α} (sees : course.Sees start scope [])
    (h : course.Follows start scope (f course.last) o) :
    course.Follows start scope (course.input.current >>= f) o :=
  behind sees.run_current (.refl sees) h

theorem advance {f : Token → Walk α} (sees : course.Sees start scope (token :: following))
    (h : course.Sees start.next scope following → course.Follows start.next scope (f token) o) :
    course.Follows start scope (course.input.advance >>= f) o :=
  behind sees.run_advance (.next sees) (h sees.next)

/-- A token of the kind is passed. -/
theorem accept {f : Bool → Walk α} {kind : TokenKind}
    (sees : course.Sees start scope (token :: following)) (same : token.kind = kind)
    (h : course.Sees start.next scope following → course.Follows start.next scope (f true) o) :
    course.Follows start scope (course.input.accept kind >>= f) o := by
  rw [Input.accept, bind_assoc]
  apply current sees
  rw [if_pos same, bind_assoc]
  exact advance sees h

/-- Neither a token of another kind nor the end is passed. -/
theorem refuse {f : Bool → Walk α} {kind : TokenKind} (sees : course.Sees start scope front)
    (inner : kind ≠ .finish)
    (other : ∀ token following, front = token :: following → token.kind ≠ kind)
    (h : course.Follows start scope (f false) o) :
    course.Follows start scope (course.input.accept kind >>= f) o := by
  rw [Input.accept, bind_assoc]
  cases front with
  | nil =>
      apply current_end sees
      rw [if_neg (by rw [course.ended]; exact inner.symm)]
      exact h
  | cons token following =>
      apply current sees
      rw [if_neg (other token following rfl)]
      exact h

theorem unexpected (sees : course.Sees start scope front) (expected : Expectation) :
    course.Follows start scope (course.input.unexpected expected : Walk α)
      (Parsing.fail (scope.unexpected expected front) : Outcome (Parsed α b)) := by
  obtain rfl := sees.scope_eq
  rw [Input.unexpected]
  cases front with
  | nil =>
      apply current_end sees
      apply behind (run_get start) (.refl sees)
      rw [if_pos course.ended]
      split
      · rename_i outside
        exact fail sees (if_pos outside).symm
      · rename_i inside
        exact fail sees (if_neg inside).symm
  | cons token following =>
      apply current sees
      apply behind (run_get start) (.refl sees)
      rw [if_neg (sees.inner token List.mem_cons_self)]
      split
      · rename_i stray
        exact fail sees (if_pos stray).symm
      · rename_i other
        exact fail sees (if_neg other).symm

/-- An opening parenthesis is passed. -/
theorem expectOpening {f : Token → Walk α} (sees : course.Sees start scope (token :: following))
    (opens : token.kind = .leftParen) (expected : Expectation)
    (h : course.Sees start.next scope following → course.Follows start.next scope (f token) o) :
    course.Follows start scope (course.input.expectOpening expected >>= f) o := by
  rw [Input.expectOpening, bind_assoc]
  apply current sees
  rw [if_pos opens]
  exact advance sees h

/-- Without an opening parenthesis, the walk stops at the next token. -/
theorem expectOpening_fail {f : Token → Walk α} (sees : course.Sees start scope front)
    (other : ∀ token following, front = token :: following → token.kind ≠ .leftParen)
    (expected : Expectation) :
    course.Follows start scope (course.input.expectOpening expected >>= f)
      (Parsing.fail (scope.unexpected expected front) : Outcome (Parsed α b)) := by
  have stopped : course.Follows start scope (course.input.unexpected expected : Walk Token)
      (Parsing.fail (scope.unexpected expected front) : Outcome (Parsed Token b)) :=
    unexpected sees expected
  obtain ⟨after, same, stopped⟩ := stopped
  rw [Input.expectOpening, bind_assoc]
  cases front with
  | nil =>
      apply current_end sees
      rw [if_neg (by simp [course.ended])]
      exact ⟨after, run_bind_error same, stopped⟩
  | cons token following =>
      apply current sees
      rw [if_neg (other token following rfl)]
      exact ⟨after, run_bind_error same, stopped⟩

/-- A parenthesis is closed by the next token or not at all. -/
theorem expectClosing {parsed : Parsed α b} (sees : course.Sees start scope parsed.rest)
    (opening : Int) :
    course.Follows start scope (do course.input.expectClosing opening; return parsed.value)
      (close opening parsed) := by
  rw [Input.expectClosing, bind_assoc]
  unfold close
  split
  · rename_i found
    rw [found] at sees
    apply current_end sees
    rw [if_neg (by simp [course.ended]), if_pos course.ended]
    exact fail sees rfl
  · rename_i token following found
    rw [found] at sees
    apply current sees
    split
    · rw [bind_assoc]
      exact advance sees fun sees => pure sees rfl
    · rw [if_neg (sees.inner token List.mem_cons_self)]
      exact fail sees rfl

end Follows

section Levels

/-- There is room for one level more where parsing has it, or the walk stops with the same error. -/
theorem Sees.run_enter (sees : course.Sees start scope front) :
    (start.stand.depth + 1 ≤ course.limit ∧
      (∃ inner, scope.deeper front = .ok inner ∧ course.Sees (start.down 0) inner front) ∧
      run course.input.enter start = some (.ok (), start.down 0)) ∨
    ∃ cause, scope.deeper front = Parsing.fail cause ∧
      run course.input.enter start =
        some (.error (.fault (.failure cause)), start.down 0) := by
  obtain rfl := sees.scope_eq
  have down : course.Sees (start.down 0) _ front := ⟨sees.bound, sees.drop_eq, sees.inner, rfl⟩
  have moved : run (move fun stand => { stand with depth := stand.depth + 1 }) start =
      some (.ok (), start.down 0) := rfl
  rw [Input.enter, run_bind_ok moved, run_bind_ok (run_get _), Scope.deeper]
  by_cases exceeds : course.limit < start.stand.depth + 1
  · right
    refine ⟨_, if_pos exceeds, ?_⟩
    rw [if_pos (by simpa [input, Trail.down] using exceeds), run_bind_ok down.run_current]
    cases front <;> rfl
  · left
    refine ⟨by omega, ⟨_, if_neg exceeds, down⟩, ?_⟩
    rw [if_neg (by simpa [input, Trail.down] using exceeds)]
    rfl

variable (room : start.stand.depth + 1 ≤ course.limit) (le : opened ≤ 1)

include room le

theorem within_down : Within course.limit start.stand (start.down opened).stand := by
  constructor
  · intro _
    exact_mod_cast room
  · change start.stand.parentheses + opened + start.stand.depth ≤
      start.stand.depth + 1 + start.stand.parentheses
    omega

theorem Back.up (sees : course.Sees start scope front)
    (back : course.Back (start.down opened) inner after rest)
    (below : course.Sees (start.down opened) inner front) :
    course.Back start scope (after.up opened) rest := by
  have same := below.scope_eq.symm.trans back.sees.scope_eq
  simp only [Trail.down, Scope.mk.injEq, true_and] at same
  obtain ⟨depth, parentheses⟩ := same
  have depth' : (after.up opened).stand.depth = start.stand.depth := by
    simp [Trail.up, ← depth]
  have parentheses' : (after.up opened).stand.parentheses = start.stand.parentheses := by
    simp [Trail.up, ← parentheses]
  refine ⟨⟨back.sees.bound, back.sees.drop_eq, back.sees.inner, ?_⟩, .of_eq depth' parentheses', ?_⟩
  · rw [depth', parentheses']
    exact sees.scope_eq
  · exact Since.below back.since rfl (within_down room le)

/-- A walk that goes down a level, on as another walk does, and up again, follows that walk. -/
theorem Follows.nested {whole : Walk α} (sees : course.Sees start scope front)
    (below : course.Sees (start.down opened) inner front)
    (h : course.Follows (start.down opened) inner walk o)
    (ok : ∀ a after, run walk (start.down opened) = some (.ok a, after) →
      run whole start = some (.ok a, after.up opened))
    (error : ∀ stop after, run walk (start.down opened) = some (.error stop, after) →
      run whole start = some (.error stop, after)) :
    course.Follows start scope whole o := by
  apply Ensures.mono h
  · rintro parsed ⟨after, same, back⟩
    exact ⟨after.up opened, ok _ _ same, .up room le sees back below⟩
  · rintro fault ⟨after, same, stopped⟩
    exact ⟨after, error _ _ same, stopped.bound, stopped.accounts,
      stopped.since.below rfl (within_down room le)⟩

end Levels

/-- The walk one level deeper follows the parse there. -/
theorem Follows.deeper {rule : Scope → Outcome (Parsed α b)} {g : Parsed α b → Outcome (Parsed β c)}
    (sees : course.Sees start scope following)
    (h : ∀ inner, course.Sees (start.down 0) inner following →
      course.Follows (start.down 0) inner walk (rule inner))
    (next : ∀ (parsed : Parsed α b) after, course.Sees after scope parsed.rest →
      course.Follows after scope (f parsed.value) (g parsed)) :
    course.Follows start scope
      (do
        course.input.enter
        let a ← walk
        leave
        f a)
      (do
        let inner ← scope.deeper following
        let parsed ← rule inner
        g parsed) := by
  have nested : course.Follows start scope
      (do
        course.input.enter
        let a ← walk
        leave
        return a)
      (scope.deeper following >>= rule) := by
    rcases sees.run_enter with ⟨room, ⟨inner, deeper, below⟩, entered⟩ | ⟨cause, deeper, stopped⟩
    · rw [deeper]
      apply Follows.nested room (Nat.zero_le 1) sees below (h inner below)
      · intro a after same
        rw [run_bind_ok entered, run_bind_ok same]
        rfl
      · intro stop after same
        rw [run_bind_ok entered, run_bind_error same]
    · rw [deeper]
      exact ⟨start.down 0, run_bind_error stopped, sees.bound, accounts_failure _ _, .of_eq rfl⟩
  simpa only [bind_assoc, pure_bind] using nested.bind next

/-- The walk in parentheses follows the parse there. -/
theorem Follows.inside {rule : Scope → Outcome (Parsed α b)} {g : Parsed α b → Outcome (Parsed β c)}
    {opening : Int} (sees : course.Sees start scope following)
    (h : ∀ inner, course.Sees (start.down 1) inner following →
      course.Follows (start.down 1) inner walk (rule inner))
    (next : ∀ (parsed : Parsed α b) after, course.Sees after scope parsed.rest →
      course.Follows after scope (f parsed.value) (g parsed)) :
    course.Follows start scope
      (do
        course.input.enter
        countOpening
        let a ← walk
        course.input.expectClosing opening
        countClosing
        leave
        f a)
      (do
        let inner ← scope.inside following
        let parsed ← rule inner
        let closed ← close opening parsed
        g closed) := by
  have nested : course.Follows start scope
      (do
        course.input.enter
        countOpening
        let a ← (do
          let a ← walk
          course.input.expectClosing opening
          return a)
        countClosing
        leave
        return a)
      (do
        let inner ← scope.inside following
        let parsed ← rule inner
        close opening parsed) := by
    rw [Scope.inside]
    rcases sees.run_enter with ⟨room, ⟨outer, deeper, level⟩, entered⟩ | ⟨cause, deeper, stopped⟩
    · rw [deeper]
      have counted : run countOpening (start.down 0) = some (.ok (), start.down 1) := rfl
      have below : course.Sees (start.down 1) { outer with parentheses := outer.parentheses + 1 }
          following := by
        refine ⟨sees.bound, sees.drop_eq, sees.inner, ?_⟩
        rw [level.scope_eq]
        rfl
      have closing : course.Follows (start.down 1) _
          (do
            let a ← walk
            course.input.expectClosing opening
            return a)
          (rule _ >>= close opening) :=
        (h _ below).bind fun parsed after sees => Follows.expectClosing sees opening
      apply Follows.nested room (Nat.le_refl 1) sees below closing
      · intro a after same
        rw [run_bind_ok entered, run_bind_ok counted, run_bind_ok same]
        rfl
      · intro stop after same
        rw [run_bind_ok entered, run_bind_ok counted, run_bind_error same]
    · rw [deeper]
      exact ⟨start.down 0, run_bind_error stopped, sees.bound, accounts_failure _ _, .of_eq rfl⟩
  simpa only [bind_assoc, pure_bind] using nested.bind next

end Course

end Reckoner.Walk
