import Reckoner.Expr.Parsing
import Reckoner.Proofs.Outcome

/-!
# Room for nesting

How much nesting a scope still has room for.  Entering a group, a call, a sign or an exponent
succeeds exactly when there is room for one level more, and costs that level.
-/

namespace Reckoner.Parsing.Scope

/-- Whether `n` further levels fit under the limit.  No level at all fits everywhere, since the
limit is looked at only on the way down. -/
def Fits (scope : Scope) (n : Nat) : Prop := n = 0 ∨ (scope.depth : Int) + n ≤ scope.limit

variable {scope : Scope} {m n : Nat}

theorem fits_zero (scope : Scope) : scope.Fits 0 := .inl rfl

theorem fits_max : scope.Fits (max m n) ↔ scope.Fits m ∧ scope.Fits n := by
  unfold Fits
  omega

theorem Fits.mono (h : scope.Fits n) (le : m ≤ n) : scope.Fits m := by
  unfold Fits at h ⊢
  omega

/-- What fits one level deeper fits with that level added. -/
theorem ensures_deeper (scope : Scope) (tokens : List Token) :
    Ensures (fun deeper => ∀ n, deeper.Fits n → scope.Fits (n + 1))
      (fun fault => ∃ cause, fault = .failure cause) (scope.deeper tokens) := by
  unfold deeper
  split
  · exact ⟨_, rfl⟩
  · intro n fits
    simp only [Fits] at fits ⊢
    omega

theorem ensures_inside (scope : Scope) (tokens : List Token) :
    Ensures (fun inner => ∀ n, inner.Fits n → scope.Fits (n + 1))
      (fun fault => ∃ cause, fault = .failure cause) (scope.inside tokens) :=
  (scope.ensures_deeper tokens).and_then fun _ room => room

/-- Where one level more fits, the scope gets deeper and the other levels still fit. -/
theorem Fits.deeper (h : scope.Fits (n + 1)) (tokens : List Token) :
    Ensures (fun deeper => deeper.Fits n) (fun _ => False) (scope.deeper tokens) := by
  simp only [Fits] at h
  unfold Scope.deeper
  split
  · omega
  · simp only [Ensures.ok_iff, Fits]
    omega

theorem Fits.inside (h : scope.Fits (n + 1)) (tokens : List Token) :
    Ensures (fun inner => inner.Fits n) (fun _ => False) (scope.inside tokens) :=
  (h.deeper tokens).and_then fun _ fits => fits

section Results

variable {inner : Scope} {tokens : List Token} {fault : Fault SyntaxError}

theorem eq_of_deeper (h : scope.deeper tokens = .ok inner) :
    inner = { scope with depth := scope.depth + 1 } := by
  unfold deeper at h
  split at h
  · cases h
  · exact (Except.ok.inj h).symm

theorem eq_of_inside (h : scope.inside tokens = .ok inner) :
    inner = { scope with depth := scope.depth + 1, parentheses := scope.parentheses + 1 } := by
  cases room : scope.deeper tokens with
  | error fault =>
      rw [inside, room] at h
      cases h
  | ok deeper =>
      rw [inside, room, eq_of_deeper room] at h
      exact (Except.ok.inj h).symm

theorem fault_of_deeper (h : scope.deeper tokens = .error fault) :
    fault = .failure (.tooDeeplyNested scope.limit (scope.next tokens)) := by
  unfold deeper at h
  split at h
  · exact (Except.error.inj h).symm
  · cases h

theorem fault_of_inside (h : scope.inside tokens = .error fault) :
    fault = .failure (.tooDeeplyNested scope.limit (scope.next tokens)) := by
  cases room : scope.deeper tokens with
  | error fault' =>
      rw [inside, room] at h
      cases h
      exact fault_of_deeper room
  | ok deeper =>
      rw [inside, room] at h
      cases h

end Results

end Reckoner.Parsing.Scope
