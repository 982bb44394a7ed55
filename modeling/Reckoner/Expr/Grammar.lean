import Reckoner.Decimal.Reading
import Reckoner.Expr
import Reckoner.Failure
import Reckoner.Token

/-!
# The grammar of expressions

The grammar as a relation between tokens and trees, apart from any way of parsing.  A derivation
also records its nesting, the number of groups, calls, signs and exponents on its deepest path.

## Implementation notes

The relation has one constructor for each form a rule can take, and one for each rule that hands on
to the next tighter rule.  Left recursion of the rules for sums and products is what groups their
operators to the left.
-/

namespace Reckoner

/-- The rules of the grammar, from the loosest to the tightest. -/
inductive Rule where
  /-- Terms joined by additive operators. -/
  | expression
  /-- Factors joined by multiplicative operators. -/
  | term
  /-- A power with any number of minus signs in front. -/
  | factor
  /-- An operand with an optional exponent. -/
  | power
  /-- A numeral, a constant, a call or a group. -/
  | operand
deriving DecidableEq

mutual

/-- The tokens derive the tree by the rule, with the given nesting. -/
inductive Derives : Rule → Nat → List Token → Expr → Prop
  | term {n ts e} : Derives .term n ts e → Derives .expression n ts e
  | add {m n ts us l r t} : Derives .expression m ts l → t.kind = .plus → Derives .term n us r →
      Derives .expression (max m n) (ts ++ t :: us) (.binary .add l r)
  | sub {m n ts us l r t} : Derives .expression m ts l → t.kind = .minus → Derives .term n us r →
      Derives .expression (max m n) (ts ++ t :: us) (.binary .sub l r)
  | factor {n ts e} : Derives .factor n ts e → Derives .term n ts e
  | mul {m n ts us l r t} : Derives .term m ts l → t.kind = .star → Derives .factor n us r →
      Derives .term (max m n) (ts ++ t :: us) (.binary .mul l r)
  | div {m n ts us l r t} : Derives .term m ts l → t.kind = .slash → Derives .factor n us r →
      Derives .term (max m n) (ts ++ t :: us) (.binary .div l r)
  | power {n ts e} : Derives .power n ts e → Derives .factor n ts e
  | negate {n ts e t} : t.kind = .minus → Derives .factor n ts e →
      Derives .factor (n + 1) (t :: ts) (.negate e)
  | operand {n ts e} : Derives .operand n ts e → Derives .power n ts e
  | raise {m n ts us l r t} : Derives .operand m ts l → t.kind = .caret → Derives .factor n us r →
      Derives .power (max m (n + 1)) (ts ++ t :: us) (.binary .pow l r)
  | number {t x} : t.kind = .number → Decimal.readNumber? t.text = some x →
      Derives .operand 0 [t] (.number x)
  | constant {t} (c : Constant) : t.kind = .name → t.text = c.name →
      Derives .operand 0 [t] (.constant c.name c.value)
  | group {n ts e left right} : left.kind = .leftParen → Derives .expression n ts e →
      right.kind = .rightParen → Derives .operand (n + 1) (left :: (ts ++ [right])) e
  | call {n ts es t left right} (f : Builtin) : t.kind = .name → t.text = f.name →
      left.kind = .leftParen → DerivesAll n ts es → right.kind = .rightParen →
      es.length = f.arity →
      Derives .operand (n + 1) (t :: left :: (ts ++ [right])) (.call f.name es)

/-- The tokens derive expressions separated by commas, the deepest with the given nesting. -/
inductive DerivesAll : Nat → List Token → List Expr → Prop
  | one {n ts e} : Derives .expression n ts e → DerivesAll n ts [e]
  | more {m n ts us e es t} : Derives .expression m ts e → t.kind = .comma → DerivesAll n us es →
      DerivesAll (max m n) (ts ++ t :: us) (e :: es)

end

end Reckoner
