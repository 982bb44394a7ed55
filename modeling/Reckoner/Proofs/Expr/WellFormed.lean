import Reckoner.Expr.Grammar
import Reckoner.Proofs.Builtin
import Reckoner.Proofs.Expr.Meaning
import Reckoner.Proofs.Expr.Operation

/-!
# Well-formed trees have a value unless arithmetic fails

The trees that tokens derive call known functions with as many arguments as they take and have no
NaN in their leaves.  Such a tree evaluates to a number or fails for a reason of arithmetic, and it
asks the elementary functions for nothing outside their domains.
-/

namespace Reckoner

/-- If the token is a numeral, it is read as a number. -/
def Token.Readable (token : Token) : Prop :=
  token.kind = .number → ∃ x, Decimal.readNumber? token.text = some x ∧ x.isNaN = false

namespace Expr

/-- No leaf is NaN, and every call is of a function with as many arguments as it takes. -/
inductive WellFormed : Expr → Prop
  | number {value} : value.isNaN = false → WellFormed (.number value)
  | constant {name value} : value.isNaN = false → WellFormed (.constant name value)
  | negate {operand} : WellFormed operand → WellFormed (.negate operand)
  | binary {operator left right} : WellFormed left → WellFormed right →
      WellFormed (.binary operator left right)
  | call {name arguments} (function : Builtin) : Builtin.ofName? name = some function →
      arguments.length = function.arity → (∀ argument ∈ arguments, WellFormed argument) →
      WellFormed (.call name arguments)

/-- The tree is made of numbers with the given property, of the known constants, and of calls of the
known functions with as many arguments as they take. -/
inductive Made (literal : Binary64 → Prop) : Expr → Prop
  | number {value} : literal value → Made literal (.number value)
  | constant (c : Constant) : Made literal (.constant c.name c.value)
  | negate {operand} : Made literal operand → Made literal (.negate operand)
  | binary {operator left right} : Made literal left → Made literal right →
      Made literal (.binary operator left right)
  | call (function : Builtin) {arguments} : arguments.length = function.arity →
      (∀ argument ∈ arguments, Made literal argument) → Made literal (.call function.name arguments)

section Made

variable {literal : Binary64 → Prop}

mutual

/-- The numbers of a derived tree are read from the numerals among the tokens. -/
theorem made_of_derives {rule : Rule} {n : Nat} {ts : List Token} {expr : Expr}
    (h : Derives rule n ts expr) (readable : ∀ t ∈ ts, t.kind = .number →
      ∃ x, Decimal.readNumber? t.text = some x ∧ literal x) : expr.Made literal := by
  match h with
  | .term derived => exact made_of_derives derived readable
  | .factor derived => exact made_of_derives derived readable
  | .power derived => exact made_of_derives derived readable
  | .operand derived => exact made_of_derives derived readable
  | .add left _ right | .sub left _ right | .mul left _ right | .div left _ right
  | .raise left _ right =>
      obtain ⟨before, behind⟩ := List.forall_mem_append.1 readable
      exact .binary (made_of_derives left before)
        (made_of_derives right (List.forall_mem_cons.1 behind).2)
  | .negate _ derived =>
      exact .negate (made_of_derives derived (List.forall_mem_cons.1 readable).2)
  | .number kind read =>
      obtain ⟨x, found, suits⟩ := readable _ List.mem_cons_self kind
      cases read.symm.trans found
      exact .number suits
  | .constant c _ _ => exact .constant c
  | .group _ derived _ =>
      obtain ⟨_, inner⟩ := List.forall_mem_cons.1 readable
      exact made_of_derives derived (List.forall_mem_append.1 inner).1
  | .call f _ _ _ derived _ count =>
      obtain ⟨_, _, inner⟩ := List.forall_mem_cons.1 readable |>.imp_right List.forall_mem_cons.1
      exact .call f count (made_of_derivesAll derived (List.forall_mem_append.1 inner).1)

/-- The same holds of trees separated by commas. -/
theorem made_of_derivesAll {n : Nat} {ts : List Token} {exprs : List Expr}
    (h : DerivesAll n ts exprs) (readable : ∀ t ∈ ts, t.kind = .number →
      ∃ x, Decimal.readNumber? t.text = some x ∧ literal x) :
    ∀ expr ∈ exprs, expr.Made literal := by
  match h with
  | .one derived =>
      exact List.forall_mem_singleton.2 (made_of_derives derived readable)
  | .more derived _ others =>
      obtain ⟨before, behind⟩ := List.forall_mem_append.1 readable
      exact List.forall_mem_cons.2 ⟨made_of_derives derived before,
        made_of_derivesAll others (List.forall_mem_cons.1 behind).2⟩

end

end Made

/-- A tree made of numbers that are not NaN is well formed. -/
theorem Made.wellFormed {expr : Expr} (h : expr.Made (·.isNaN = false)) : expr.WellFormed := by
  induction h with
  | number real => exact .number real
  | constant c => exact .constant c.isNaN_value
  | negate _ ih => exact .negate ih
  | binary _ _ left right => exact .binary left right
  | call function count _ ih => exact .call function function.ofName?_name count ih

/-- Tokens whose numerals are read as numbers derive well-formed trees only. -/
theorem wellFormed_of_derives {rule : Rule} {n : Nat} {ts : List Token} {expr : Expr}
    (h : Derives rule n ts expr) (readable : ∀ t ∈ ts, t.Readable) : expr.WellFormed :=
  (made_of_derives h readable).wellFormed

section Evaluated

variable {context : Context} {expr : Expr} {exprs : List Expr}

theorem ensures_meanings {fault : Fault EvaluationError → Prop}
    (h : ∀ expr ∈ exprs, Ensures (·.isNaN = false) fault (meaning context expr)) :
    Ensures (fun values => values.length = exprs.length ∧ ∀ x ∈ values, x.isNaN = false)
      fault (meanings context exprs) := by
  induction exprs with
  | nil =>
      rw [meanings]
      exact ⟨rfl, nofun⟩
  | cons expr others ih =>
      obtain ⟨first, later⟩ := List.forall_mem_cons.1 h
      rw [meanings]
      apply first.and_then
      intro value real
      apply (ih later).and_then
      rintro values ⟨count, reals⟩
      exact ⟨congrArg (· + 1) count, List.forall_mem_cons.2 ⟨real, reals⟩⟩

/-- A well-formed tree has a number for a value, or its evaluation fails for a reason of
arithmetic. -/
theorem WellFormed.ensures_meaning (h : WellFormed expr) :
    Ensures (·.isNaN = false) Arithmetical (meaning context expr) := by
  induction h with
  | number real =>
      rw [meaning]
      exact real
  | constant real =>
      rw [meaning]
      exact real
  | negate _ ih =>
      rw [meaning]
      apply ih.and_then
      intro value real
      exact Binary64.isNaN_neg.trans real
  | binary _ _ left right =>
      rw [meaning]
      apply left.and_then
      intro leftValue _
      apply right.and_then
      intro rightValue _
      exact Operator.ensures_apply
  | call function known count _ ih =>
      rw [meaning, known]
      dsimp only
      rw [if_pos count]
      apply (ensures_meanings ih).and_then
      rintro values ⟨same, reals⟩
      apply (Builtin.ensures_apply (same.trans count) reals).and_then
      intro result _
      exact ensures_realOr

variable {f g : Elementary} {settings : Settings}

theorem meanings_congr
    (h : ∀ expr ∈ exprs, meaning ⟨f, settings⟩ expr = meaning ⟨g, settings⟩ expr) :
    meanings ⟨f, settings⟩ exprs = meanings ⟨g, settings⟩ exprs := by
  have unchanged := meanings_map (g := id) h
  rwa [List.map_id] at unchanged

/-- The value of a well-formed tree does not depend on the elementary functions outside their
domains. -/
theorem WellFormed.meaning_congr (agree : f.Agree g) (h : WellFormed expr) :
    meaning ⟨f, settings⟩ expr = meaning ⟨g, settings⟩ expr := by
  induction h with
  | number => rw [meaning, meaning]
  | constant => rw [meaning, meaning]
  | negate _ ih => rw [meaning, meaning, ih]
  | binary _ _ left right =>
      rw [meaning, meaning, left, right]
      simp only [Operator.apply_congr agree]
  | call function known count inner ih =>
      rw [meaning, meaning, known]
      dsimp only
      rw [if_pos count, if_pos count, meanings_congr ih]
      have sound : Ensures _ Arithmetical (meanings ⟨g, settings⟩ _) :=
        ensures_meanings fun argument mem => (inner argument mem).ensures_meaning
      cases outcome : meanings ⟨g, settings⟩ _ with
      | error fault => rfl
      | ok values =>
          rw [outcome] at sound
          obtain ⟨same, reals⟩ := sound
          change (Builtin.apply _ _ _ >>= _) = (Builtin.apply _ _ _ >>= _)
          rw [Builtin.apply_congr agree (same.trans count) reals]

end Evaluated

end Expr

end Reckoner
