import Reckoner.Proofs.Calculation
import Reckoner.Proofs.Parsing.Phrase

/-!
# Calculations are compositional

Texts that are expressions on their own keep their value, or their failure, when they are put into
parentheses as operands of an operator or a sign, or given to a function.  What the whole text comes
to is computed from what its parts come to, from left to right.
-/

namespace Reckoner

variable {context : Context} {source : String} {n : Nat} {e l r : Expr} {limit : Int}

/-- A phrase that the limit has room for is calculated by the meaning of its tree. -/
theorem calculate_of_phrase (h : Phrase .expression n source.toList e)
    (room : (n : Int) ≤ context.settings.maxDepth) :
    calculate context source = (e.meaning context).mapError (Fault.map .evaluation) := by
  rw [calculate, Expr.parse_of_phrase h room, ← Expr.evaluateChain_nil]
  rfl

/-- A text that is parsed under a limit of at least zero is a phrase that the limit has room for. -/
theorem exists_phrase (h : Expr.parse limit source = .ok e) (nonnegative : 0 ≤ limit) :
    ∃ n, Phrase .expression n source.toList e ∧ (n : Int) ≤ limit := by
  obtain ⟨n, phrase, bound⟩ := Expr.phrase_of_parse h
  exact ⟨n, phrase, by omega⟩

/-- Under a nesting limit of at least two, texts that are parsed under a limit two lower have the
values and failures that they have on their own as operands of an operator, under a minus sign and
as arguments of a function: what the parts come to, from left to right, and then the operation. -/
theorem calculate_compositional (context : Context) (room : 2 ≤ context.settings.maxDepth)
    (a b : String) (l r : Expr) (parsed : Expr.parse (context.settings.maxDepth - 2) a = .ok l)
    (parsed' : Expr.parse (context.settings.maxDepth - 2) b = .ok r) :
    (∀ operator : Operator,
      calculate context ("(" ++ a ++ ")" ++ operator.symbol ++ "(" ++ b ++ ")") = (do
        let x ← calculate context a
        let y ← calculate context b
        (operator.apply context x y).mapError (Fault.map .evaluation))) ∧
    calculate context ("-(" ++ a ++ ")") = (do
      let x ← calculate context a
      return -x) ∧
    (∀ function : Builtin, function.arity = 1 →
      calculate context (function.name ++ "(" ++ a ++ ")") = (do
        let x ← calculate context a
        let result ← (function.apply context [x]).mapError (Fault.map .evaluation)
        (realOr (.functionWithoutResult function) result).mapError (Fault.map .evaluation))) ∧
    calculate context ("pow(" ++ a ++ "," ++ b ++ ")") = (do
      let x ← calculate context a
      let y ← calculate context b
      let result ← (Builtin.pow.apply context [x, y]).mapError (Fault.map .evaluation)
      (realOr (.functionWithoutResult .pow) result).mapError (Fault.map .evaluation)) := by
  obtain ⟨m, left, least⟩ := exists_phrase parsed (by omega)
  obtain ⟨n, right, least'⟩ := exists_phrase parsed' (by omega)
  rw [calculate_of_phrase left (by omega), calculate_of_phrase right (by omega)]
  refine ⟨fun operator => ?_, ?_, fun function single => ?_, ?_⟩
  · have whole := Phrase.binary operator left.group [] nofun [] nofun right.group
    rw [calculate_of_phrase (by simpa using whole) (by omega), Expr.meaning_operation]
    simp only [mapError_bind]
  · have whole := left.group.negate
    rw [calculate_of_phrase (by simpa using whole) (by omega), Expr.meaning]
    simp only [mapError_bind]
    rfl
  · have count : [l].length = function.arity := single.symm
    have whole := (Phrase.call function (.one left) count).of_operand
    rw [calculate_of_phrase (by simpa using whole) (by omega), Expr.meaning_call count]
    simp only [Expr.meanings, mapError_bind, mapError_ok, bind_assoc, pure_bind]
  · have count : [l, r].length = Builtin.pow.arity := rfl
    have opening : "pow(" = Builtin.pow.name ++ "(" := by decide
    have whole := (Phrase.call .pow (.more left [] nofun (.one right)) count).of_operand
    rw [opening, calculate_of_phrase (by simpa using whole) (by omega), Expr.meaning_call count]
    simp only [Expr.meanings, mapError_bind, mapError_ok, bind_assoc, pure_bind]

/-- The name `pi` is parsed without nesting, so that a limit of two leaves room for it on both sides
of an operator: the difference is zero. -/
theorem calculate_constant_difference :
    (2 : Int) ≤ 2 ∧ Expr.parse 0 "pi" = .ok (.constant "pi" Constant.pi.value) ∧
      calculate ⟨.platform, { Settings.default with maxDepth := 2 }⟩ "(pi)-(pi)" = .ok .zero := by
  have parsed : Expr.parse 0 "pi" = .ok (.constant "pi" Constant.pi.value) :=
    Expr.parse_of_phrase (Phrase.constant .pi).of_operand (Int.le_refl 0)
  have value : calculate ⟨.platform, { Settings.default with maxDepth := 2 }⟩ "pi" =
      .ok Constant.pi.value :=
    calculate_of_phrase (Phrase.constant .pi).of_operand (by decide)
  obtain ⟨operators, -⟩ := calculate_compositional
    ⟨.platform, { Settings.default with maxDepth := 2 }⟩ (by decide) "pi" "pi" _ _ parsed parsed
  have whole := operators .sub
  rw [value] at whole
  refine ⟨by decide, parsed, whole.trans ?_⟩
  decide +kernel

end Reckoner
