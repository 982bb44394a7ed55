import Reckoner.Expr.Walk

/-!
# Trails

How a walk is run step by step, and what its trail tells.  Between two trails, routines are entered
in order if each of them is entered on the level of the first trail or below it: a level for each
parenthesis, and none beyond the limit.

## Implementation notes

Where a walk stands may exceed the limit, since a walk that stops for its nesting does not come
back.  `Within` is therefore asked of what is entered and not of where the walk ends.
-/

namespace Reckoner.Walk

section Run

variable {α β : Type} {walk : Walk α} {f : α → Walk β} {start mid : Trail} {a : α} {stop : Stop}
  {input : Input} {token : Token}

theorem run_bind (walk : Walk α) (f : α → Walk β) (start : Trail) :
    run (walk >>= f) start = (run walk start).bind fun
      | (.ok a, mid) => run (f a) mid
      | (.error stop, mid) => some (.error stop, mid) := by
  rw [run, run, ExceptT.run_bind, StateT.run_bind]
  apply Option.bind_congr
  rintro ⟨_ | _, _⟩ _ <;> rfl

theorem run_bind_ok (h : run walk start = some (.ok a, mid)) :
    run (walk >>= f) start = run (f a) mid := by
  rw [run_bind, h]
  rfl

theorem run_bind_error (h : run walk start = some (.error stop, mid)) :
    run (walk >>= f) start = some (.error stop, mid) := by
  rw [run_bind, h]
  rfl

theorem run_get (start : Trail) : run get start = some (.ok start, start) := rfl

theorem run_move (f : Stand → Stand) (start : Trail) :
    run (move f) start = some (.ok (), { start with stand := f start.stand }) := rfl

/-- The trail with a routine noted. -/
def Trail.enter (trail : Trail) (routine : Routine) : Trail :=
  { trail with entered := (routine, trail.stand) :: trail.entered }

theorem run_note (routine : Routine) (start : Trail) :
    run (note routine) start = some (.ok (), start.enter routine) := rfl

theorem run_current (h : input.tokens[start.stand.cursor]? = some token) :
    run input.current start = some (.ok token, start) := by
  rw [Input.current, run_bind_ok (run_get start), h]
  rfl

/-- The trail behind the next token. -/
def Trail.next (trail : Trail) : Trail :=
  { trail with stand := { trail.stand with cursor := trail.stand.cursor + 1 } }

theorem run_advance (h : input.tokens[start.stand.cursor]? = some token)
    (more : start.stand.cursor + 1 < input.tokens.length) :
    run input.advance start = some (.ok token, start.next) := by
  rw [Input.advance, run_bind_ok (run_current h), run_bind_ok (run_move _ start), if_pos more]
  rfl

/-- The trail one level deeper, behind the given number of parentheses. -/
def Trail.down (trail : Trail) (opened : Nat) : Trail :=
  { trail with stand :=
    { trail.stand with
      depth := trail.stand.depth + 1, parentheses := trail.stand.parentheses + opened } }

/-- The trail one level less deep, in front of the given number of parentheses. -/
def Trail.up (trail : Trail) (opened : Nat) : Trail :=
  { trail with stand :=
    { trail.stand with
      depth := trail.stand.depth - 1, parentheses := trail.stand.parentheses - opened } }

end Run

section Order

variable {limit : Int} {tokens : List Token} {outer inner between : Stand}
  {before mid after : Trail}

/-- A stand that is reached from another one, on its level or below it. -/
structure Within (limit : Int) (outer inner : Stand) : Prop where
  /-- The limit is not exceeded on the way. -/
  depth : outer.depth ≤ limit → inner.depth ≤ limit
  /-- Each parenthesis costs a level. -/
  parentheses : inner.parentheses + outer.depth ≤ inner.depth + outer.parentheses

theorem Within.of_eq (depth : inner.depth = outer.depth)
    (parentheses : inner.parentheses = outer.parentheses) : Within limit outer inner :=
  ⟨fun low => depth ▸ low, by omega⟩

theorem Within.trans (h : Within limit outer between) (h' : Within limit between inner) :
    Within limit outer inner := by
  have := h.parentheses
  have := h'.parentheses
  exact ⟨fun low => h'.depth (h.depth low), by omega⟩

/-- A call is admitted at any token but one that is spelled like a function and is no name: the walk
of a call looks at the text only. -/
def Admits (tokens : List Token) (call : Routine × Stand) : Prop :=
  call.1 = .call → ∀ name, tokens[call.2.cursor]? = some name →
    Builtin.ofName? name.text ≠ none → name.kind = .name

/-- A call of a routine on the way from a stand. -/
structure Orderly (limit : Int) (tokens : List Token) (start : Stand) (call : Routine × Stand) :
    Prop where
  within : Within limit start call.2
  admits : Admits tokens call

/-- The routines entered between two trails were entered in order. -/
def Since (limit : Int) (tokens : List Token) (before after : Trail) : Prop :=
  ∃ calls, after.entered = calls ++ before.entered ∧
    ∀ call ∈ calls, Orderly limit tokens before.stand call

theorem Since.of_eq (same : after.entered = before.entered) : Since limit tokens before after :=
  ⟨[], same, by simp⟩

/-- What is entered from a stand below is entered from the one above. -/
theorem Since.below (h : Since limit tokens mid after) (same : mid.entered = before.entered)
    (within : Within limit before.stand mid.stand) : Since limit tokens before after := by
  obtain ⟨calls, entered, orderly⟩ := h
  refine ⟨calls, same ▸ entered, fun call mem => ?_⟩
  exact ⟨within.trans (orderly call mem).within, (orderly call mem).admits⟩

theorem Since.trans (h : Since limit tokens before mid)
    (within : Within limit before.stand mid.stand) (h' : Since limit tokens mid after) :
    Since limit tokens before after := by
  obtain ⟨calls, entered, orderly⟩ := h
  obtain ⟨later, entered', orderly'⟩ := h'
  refine ⟨later ++ calls, by rw [entered', entered, List.append_assoc], fun call mem => ?_⟩
  rcases List.mem_append.1 mem with mem | mem
  · exact ⟨within.trans (orderly' call mem).within, (orderly' call mem).admits⟩
  · exact orderly call mem

theorem since_enter {routine : Routine} (admits : Admits tokens (routine, before.stand)) :
    Since limit tokens before (before.enter routine) := by
  refine ⟨[(routine, before.stand)], rfl, ?_⟩
  simp only [List.mem_singleton, forall_eq]
  exact ⟨.of_eq rfl rfl, admits⟩

end Order

end Reckoner.Walk
