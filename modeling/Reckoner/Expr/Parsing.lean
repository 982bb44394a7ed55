import Reckoner.Decimal.Reading
import Reckoner.Expr
import Reckoner.Failure
import Reckoner.Token.Scan

/-!
# Parsing tokens into expressions

The grammar, from the loosest to the tightest rule:

* an expression is terms joined by `+` and `-`, grouped to the left;
* a term is signed factors joined by `*` and `/`, grouped to the left;
* a signed factor is a minus sign and a signed factor, or a power;
* a power is an operand, optionally raised to a signed factor;
* an operand is a numeral, a constant, a call, or an expression in parentheses.

Every group, call, sign and exponent nests one level deeper.

## Implementation notes

Each rule consumes at least one token, which `Parsed` records, and hands the rest to the next rule.
The rules recurse on the tokens that remain and, where they hand on all of them, on the rank of the
rule.  The end token is cut off beforehand, so that an empty rest means the end of the input.
-/

namespace Reckoner

namespace Parsing

/-- The outcome of a rule. -/
abbrev Outcome (α : Type) := Except (Fault SyntaxError) α

/-- The outcome that reports a syntax error. -/
def fail {α : Type} (cause : SyntaxError) : Outcome α := .error (.failure cause)

/-- A parsed value and the tokens behind it, of which there are fewer than `bound`. -/
structure Parsed (α : Type) (bound : Nat) where
  /-- The parsed value. -/
  value : α
  /-- The tokens that remain. -/
  rest : List Token
  /-- The measure of progress. -/
  rest_lt : rest.length < bound

/-- What surrounds the tokens that a rule sees. -/
structure Scope where
  /-- The greatest allowed depth. -/
  limit : Int
  /-- The position of the end of the input. -/
  finish : Int
  /-- How many groups, calls, signs and exponents are open. -/
  depth : Nat
  /-- How many parentheses are open. -/
  parentheses : Nat

namespace Scope

/-- The position of the next token. -/
def next (scope : Scope) : List Token → Int
  | [] => scope.finish
  | token :: _ => token.position

/-- The scope one level deeper, if the limit allows it. -/
def deeper (scope : Scope) (tokens : List Token) : Outcome Scope :=
  if scope.limit < scope.depth + 1 then fail (.tooDeeplyNested scope.limit (scope.next tokens))
  else .ok { scope with depth := scope.depth + 1 }

/-- The scope one level deeper behind an opening parenthesis. -/
def inside (scope : Scope) (tokens : List Token) : Outcome Scope := do
  let scope ← scope.deeper tokens
  return { scope with parentheses := scope.parentheses + 1 }

/-- Why the next token cannot stand where something else is expected. -/
def unexpected (scope : Scope) (expected : Expectation) : List Token → SyntaxError
  | [] =>
      if scope.parentheses = 0 then .endOfInput expected scope.finish
      else .endInParentheses expected scope.finish
  | token :: _ =>
      if token.kind = .rightParen ∧ scope.parentheses = 0 then .strayClosing token.position
      else .unexpectedToken expected token.text token.position

end Scope

/-- The operator of a token that joins terms. -/
def additive? : TokenKind → Option Operator
  | .plus => some .add
  | .minus => some .sub
  | _ => none

/-- The operator of a token that joins factors. -/
def multiplicative? : TokenKind → Option Operator
  | .star => some .mul
  | .slash => some .div
  | _ => none

/-- The parenthesis that closes what was opened at the given position. -/
def close {α : Type} {bound : Nat} (opening : Int) (inner : Parsed α bound) :
    Outcome (Parsed α bound) :=
  match rest : inner.rest with
  | [] => fail (.unclosed opening)
  | token :: following =>
      if token.kind = .rightParen then
        .ok ⟨inner.value, following, by
          have := inner.rest_lt; rw [rest, List.length_cons] at this; omega⟩
      else fail (.expectedClosing token.text token.position)

mutual

/-- Terms joined by `+` and `-`. -/
def expression (scope : Scope) (tokens : List Token) : Outcome (Parsed Expr tokens.length) := do
  let first ← term scope tokens
  have := first.rest_lt
  sum scope first
termination_by (tokens.length, 5)

/-- The expression that starts with the terms parsed so far. -/
def sum (scope : Scope) {bound : Nat} (left : Parsed Expr bound) : Outcome (Parsed Expr bound) :=
  match rest : left.rest with
  | [] => .ok left
  | token :: following =>
      have fewer : following.length < left.rest.length := by simp [rest]
      match additive? token.kind with
      | none => .ok left
      | some operator => do
          let right ← term scope following
          have shorter := Nat.lt_trans right.rest_lt fewer
          sum scope ⟨.binary operator left.value right.value, right.rest, Nat.lt_trans shorter left.rest_lt⟩
termination_by (left.rest.length, 0)

/-- Signed factors joined by `*` and `/`. -/
def term (scope : Scope) (tokens : List Token) : Outcome (Parsed Expr tokens.length) := do
  let first ← factor scope tokens
  have := first.rest_lt
  product scope first
termination_by (tokens.length, 4)

/-- The term that starts with the factors parsed so far. -/
def product (scope : Scope) {bound : Nat} (left : Parsed Expr bound) :
    Outcome (Parsed Expr bound) :=
  match rest : left.rest with
  | [] => .ok left
  | token :: following =>
      have fewer : following.length < left.rest.length := by simp [rest]
      match multiplicative? token.kind with
      | none => .ok left
      | some operator => do
          let right ← factor scope following
          have shorter := Nat.lt_trans right.rest_lt fewer
          product scope ⟨.binary operator left.value right.value, right.rest, Nat.lt_trans shorter left.rest_lt⟩
termination_by (left.rest.length, 0)

/-- A minus sign and a signed factor, or a power. -/
def factor (scope : Scope) (tokens : List Token) : Outcome (Parsed Expr tokens.length) :=
  match tokens with
  | [] => power scope []
  | token :: following =>
      if token.kind = .minus then do
        let deeper ← scope.deeper following
        let operand ← factor deeper following
        return ⟨.negate operand.value, operand.rest, by have := operand.rest_lt; grind⟩
      else power scope (token :: following)
termination_by (tokens.length, 3)

/-- An operand, optionally raised to a signed factor. -/
def power (scope : Scope) (tokens : List Token) : Outcome (Parsed Expr tokens.length) := do
  let base ← operand scope tokens
  match rest : base.rest with
  | [] => return base
  | token :: following =>
      have shorter : following.length < tokens.length := by
        have := base.rest_lt; rw [rest, List.length_cons] at this; omega
      if token.kind = .caret then
        let deeper ← scope.deeper following
        let exponent ← factor deeper following
        return ⟨.binary .pow base.value exponent.value, exponent.rest,
          Nat.lt_trans exponent.rest_lt shorter⟩
      else return base
termination_by (tokens.length, 2)

/-- A numeral, a constant, a call, or an expression in parentheses. -/
def operand (scope : Scope) (tokens : List Token) : Outcome (Parsed Expr tokens.length) :=
  match tokens with
  | [] => fail (scope.unexpected .operand [])
  | token :: following =>
      match token.kind with
      | .number =>
          match Decimal.readNumber? token.text with
          | some value => .ok ⟨.number value, following, by simp⟩
          | none => .error (.misuse (.unreadableNumeral token.text))
      | .leftParen => do
          let inner ← scope.inside following
          let grouped ← close token.position (← expression inner following)
          return ⟨grouped.value, grouped.rest, by have := grouped.rest_lt; grind⟩
      | .name =>
          match Builtin.ofName? token.text with
          | some function => do
              let called ← call scope token.position function following
              return ⟨called.value, called.rest, by have := called.rest_lt; grind⟩
          | none =>
              match Constant.ofName? token.text with
              | some constant => .ok ⟨.constant constant.name constant.value, following, by simp⟩
              | none => fail (.unknownName token.text token.position)
      | _ => fail (scope.unexpected .operand (token :: following))
termination_by (tokens.length, 1)

/-- The arguments of a function whose name stands at the given position. -/
def call (scope : Scope) (position : Int) (function : Builtin) (tokens : List Token) :
    Outcome (Parsed Expr tokens.length) :=
  match tokens with
  | [] => fail (scope.unexpected (.argumentsOf function.name) [])
  | token :: following =>
      if token.kind = .leftParen then do
        let inner ← scope.inside following
        let listed ← close token.position (← arguments inner following)
        if listed.value.length = function.arity then
          return ⟨.call function.name listed.value, listed.rest, by
            have := listed.rest_lt; grind⟩
        else
          fail (.argumentCount function.name function.arity listed.value.length position)
      else fail (scope.unexpected (.argumentsOf function.name) (token :: following))
termination_by (tokens.length, 0)

/-- Expressions separated by commas, or nothing in front of a closing parenthesis. -/
def arguments (scope : Scope) (tokens : List Token) :
    Outcome (Parsed (List Expr) (tokens.length + 1)) :=
  if (tokens.head?.map (·.kind)) = some .rightParen then .ok ⟨[], tokens, by simp⟩
  else do
    let first ← expression scope tokens
    have := first.rest_lt
    furtherArguments scope ⟨[first.value], first.rest, by omega⟩
termination_by (tokens.length, 6)

/-- The arguments behind those parsed so far, which are in reverse order. -/
def furtherArguments (scope : Scope) {bound : Nat} (found : Parsed (List Expr) bound) :
    Outcome (Parsed (List Expr) bound) :=
  match rest : found.rest with
  | [] => .ok ⟨found.value.reverse, found.rest, found.rest_lt⟩
  | token :: following =>
      have fewer : following.length < found.rest.length := by simp [rest]
      if token.kind = .comma then do
        let next ← expression scope following
        have shorter := Nat.lt_trans next.rest_lt fewer
        furtherArguments scope
          ⟨next.value :: found.value, next.rest, Nat.lt_trans shorter found.rest_lt⟩
      else .ok ⟨found.value.reverse, found.rest, found.rest_lt⟩
termination_by (found.rest.length, 0)

end

end Parsing

namespace Expr

open Parsing (fail expression)

/-- Parses the tokens up to the first end token as one expression. -/
def ofTokens (limit : Int) (tokens : List Token) : Parsing.Outcome Expr :=
  if (tokens.getLast?.map (·.kind)) = some .finish then
    let body := tokens.takeWhile (·.kind ≠ .finish)
    let finish := ((tokens.find? (·.kind = .finish)).map (·.position)).getD 0
    if body.isEmpty then fail .emptyExpression
    else do
      let parsed ← expression ⟨limit, finish, 0, 0⟩ body
      match parsed.rest with
      | [] => return parsed.value
      | token :: _ =>
          if token.kind = .rightParen then fail (.strayClosing token.position)
          else fail (.trailingInput token.text token.position)
  else .error (.misuse .missingEndToken)

/-- Parses a text as one expression. -/
def parse (limit : Int) (source : String) : Except (Fault Failure) Expr :=
  match Token.scan source with
  | .error cause => .error (.failure (.lexical cause))
  | .ok tokens => (ofTokens limit tokens).mapError (Fault.map .syntactic)

end Expr

end Reckoner
