import Reckoner.Failure

/-!
# Outcomes that satisfy a condition

What a computation that may stop early is known to end in: a value with one property, or a fault
with another.  Both conditions are given at once, so that one statement says when a computation
stops and what it returns otherwise.  Two computations are compared by what the second one amends: it
ends like the first one, except perhaps where the first one ends in a fault of a certain sort.
-/

namespace Reckoner

variable {ε α β : Type}

/-- The value satisfies the first condition, or the fault satisfies the second. -/
def Ensures (value : α → Prop) (fault : ε → Prop) : Except ε α → Prop
  | .ok a => value a
  | .error e => fault e

namespace Ensures

variable {value value' : α → Prop} {fault fault' : ε → Prop} {x : Except ε α}

@[simp] theorem ok_iff {a : α} : Ensures value fault (.ok a) ↔ value a := Iff.rfl

@[simp] theorem error_iff {e : ε} : Ensures value fault (.error e) ↔ fault e := Iff.rfl

/-- Every computation ends somehow. -/
theorem somehow (x : Except ε α) : Ensures (fun _ => True) (fun _ => True) x := by
  cases x <;> trivial

/-- Both conditions may be weakened. -/
theorem mono (h : Ensures value fault x) (hv : ∀ a, value a → value' a)
    (hf : ∀ e, fault e → fault' e) : Ensures value' fault' x := by
  cases x with
  | ok a => exact hv a h
  | error e => exact hf e h

/-- A computation is followed by one whose conditions the first value establishes. -/
theorem bind {result : β → Prop} {f : α → Except ε β} (h : Ensures value fault x)
    (hv : ∀ a, value a → Ensures result fault' (f a)) (hf : ∀ e, fault e → fault' e) :
    Ensures result fault' (x >>= f) := by
  cases x with
  | ok a => exact hv a h
  | error e => exact hf e h

/-- A computation is followed by one that has the same faults. -/
theorem and_then {result : β → Prop} {f : α → Except ε β} (h : Ensures value fault x)
    (hv : ∀ a, value a → Ensures result fault (f a)) : Ensures result fault (x >>= f) := by
  apply h.bind hv
  intro e he
  exact he

/-- What follows a computation matters only for the values that satisfy its condition. -/
theorem bind_congr {f g : α → Except ε β} (h : Ensures value fault x)
    (same : ∀ a, value a → f a = g a) : x >>= f = x >>= g := by
  cases x with
  | ok a => exact same a h
  | error e => rfl

end Ensures

section Amends

variable {curable : ε → Prop} {x y : Except ε α}

/-- The second outcome is the first one, unless the first is a fault of the given sort. -/
inductive Amends (curable : ε → Prop) : Except ε α → Except ε α → Prop
  | same (x : Except ε α) : Amends curable x x
  | cured {e : ε} (y : Except ε α) : curable e → Amends curable (.error e) y

/-- A computation that is amended in its parts is amended. -/
theorem Amends.bind {f g : α → Except ε β} (h : Amends curable x y)
    (next : ∀ a, Amends curable (f a) (g a)) : Amends curable (x >>= f) (y >>= g) := by
  cases h with
  | same =>
      cases x with
      | ok a => exact next a
      | error e => exact .same _
  | cured _ sort => exact .cured _ sort

/-- A value needs no amendment. -/
theorem Amends.eq_ok {a : α} (h : Amends curable (.ok a) y) : y = .ok a := by
  cases h
  rfl

/-- A fault that is not amended stays. -/
theorem Amends.eq_error_or {e : ε} (h : Amends curable (.error e) y) :
    y = .error e ∨ curable e := by
  cases h with
  | same => exact .inl rfl
  | cured _ sort => exact .inr sort

/-- Where no fault can be amended, the outcomes are the same. -/
theorem Amends.eq (h : Amends (fun _ => False) x y) : x = y := by
  cases h with
  | same => rfl
  | cured _ none => exact none.elim

end Amends

theorem mapError_ok {ι : Type} (rename : ε → ι) (a : α) :
    (Except.ok a : Except ε α).mapError rename = pure a := rfl

/-- Renaming the faults of a sequence renames those of its parts. -/
theorem mapError_bind {ι : Type} (rename : ε → ι) (x : Except ε α) (f : α → Except ε β) :
    (x >>= f).mapError rename = x.mapError rename >>= fun a => (f a).mapError rename := by
  cases x <;> rfl

end Reckoner
