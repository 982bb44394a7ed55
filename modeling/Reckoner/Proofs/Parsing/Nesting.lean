import Reckoner.Expr.Grammar
import Reckoner.Proofs.Parsing.Parentheses

/-!
# Phrases are well nested

Parentheses nest well in every phrase of the grammar.  That they nest well can be seen from their
numbers: they do if and only if every one of them has a partner.
-/

namespace Reckoner

namespace Token

variable {token left right : Token} {tokens ts us : List Token} {opened : List Int}

theorem openings_cons (token : Token) (tokens : List Token) :
    openings (token :: tokens) = openings tokens + if token.kind = .leftParen then 1 else 0 := by
  simp [openings, List.countP_cons]

theorem closings_cons (token : Token) (tokens : List Token) :
    closings (token :: tokens) = closings tokens + if token.kind = .rightParen then 1 else 0 := by
  simp [closings, List.countP_cons]

/-- The first token counts in every beginning but the empty one. -/
theorem forall_take_cons (token : Token) (tokens : List Token) (opened : Nat) :
    (∀ n, closings ((token :: tokens).take n) ≤ openings ((token :: tokens).take n) + opened) ↔
      ∀ n, closings (tokens.take n) + (if token.kind = .rightParen then 1 else 0) ≤
        openings (tokens.take n) + (if token.kind = .leftParen then 1 else 0) + opened := by
  rw [← Nat.and_forall_add_one]
  simp only [List.take_succ_cons, openings_cons, closings_cons]
  simp [closings]

/-- The parentheses that are open and those of the tokens have partners if and only if their numbers
agree, and no beginning closes more of them than are open there. -/
theorem unpairedFrom_eq_iff :
    unpairedFrom opened tokens = ⟨none, []⟩ ↔
      closings tokens = openings tokens + opened.length ∧
        ∀ n, closings (tokens.take n) ≤ openings (tokens.take n) + opened.length := by
  fun_induction unpairedFrom opened tokens with
  | case1 opened => simp [openings, closings, eq_comm]
  | case2 opened token tokens kind ih =>
      rw [ih, forall_take_cons]
      simp [openings_cons, closings_cons, kind, Nat.add_right_comm _ 1, Nat.add_assoc]
  | case3 token tokens left right ih =>
      constructor
      · intro paired
        cases paired
      · intro h
        have first := h.2 1
        simp [openings, closings, right] at first
  | case4 token tokens left right p outer ih =>
      rw [ih, forall_take_cons]
      simp [openings_cons, closings_cons, right, ← Nat.add_assoc]
  | case5 opened token tokens left right ih =>
      rw [ih, forall_take_cons]
      simp [openings_cons, closings_cons, left, right]

/-- Parentheses nest well if and only if every one of them has a partner. -/
theorem wellNested_iff_balanced : WellNested tokens ↔ Balanced tokens := by
  rw [Balanced, unpaired, unpairedFrom_eq_iff]
  exact ⟨fun h => ⟨h.total, h.beginning⟩, fun h => ⟨h.1, h.2⟩⟩

/-- Behind the tokens, the same parentheses are open as in front of them. -/
def Neutral (ts : List Token) : Prop :=
  ∀ opened us, unpairedFrom opened (ts ++ us) = unpairedFrom opened us

namespace Neutral

theorem nil : Neutral [] := fun _ _ => rfl

theorem append (h : Neutral ts) (h' : Neutral us) : Neutral (ts ++ us) := by
  intro opened vs
  rw [List.append_assoc, h, h']

theorem cons (other : token.kind ≠ .leftParen ∧ token.kind ≠ .rightParen) (h : Neutral ts) :
    Neutral (token :: ts) := by
  intro opened us
  rw [List.cons_append, unpairedFrom_pass other.1 other.2, h]

theorem enclose (opens : left.kind = .leftParen) (h : Neutral ts)
    (closes : right.kind = .rightParen) : Neutral (left :: (ts ++ [right])) := by
  intro opened us
  rw [List.cons_append, List.append_assoc, unpairedFrom_opening opens, h, List.singleton_append,
    unpairedFrom_closing closes]

theorem wellNested (h : Neutral ts) : WellNested ts := by
  rw [wellNested_iff_balanced, Balanced, unpaired, ← List.append_nil ts, h]
  rfl

end Neutral

end Token

mutual

/-- Behind a phrase, the same parentheses are open as in front of it. -/
theorem Derives.neutral {rule : Rule} {n : Nat} {ts : List Token} {e : Expr}
    (h : Derives rule n ts e) : Token.Neutral ts := by
  match h with
  | .term h | .factor h | .power h | .operand h => exact h.neutral
  | .add left kind right | .sub left kind right | .mul left kind right | .div left kind right
  | .raise left kind right => exact left.neutral.append (.cons (by simp [kind]) right.neutral)
  | .negate kind h => exact .cons (by simp [kind]) h.neutral
  | .number kind _ | .constant _ kind _ => exact .cons (by simp [kind]) .nil
  | .group opens h closes => exact .enclose opens h.neutral closes
  | .call _ kind _ opens h closes _ =>
      exact .cons (by simp [kind]) (.enclose opens h.neutral closes)

theorem DerivesAll.neutral {n : Nat} {ts : List Token} {es : List Expr} (h : DerivesAll n ts es) :
    Token.Neutral ts := by
  match h with
  | .one h => exact h.neutral
  | .more h kind hs => exact h.neutral.append (.cons (by simp [kind]) hs.neutral)

end

end Reckoner
