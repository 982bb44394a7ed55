import Reckoner.Expr.Parsing

/-!
# Walking over tokens

The rules of the grammar as routines that move one cursor over a list of tokens.  Counters say how
many levels of nesting and how many parentheses are open; a routine counts up on its way down a
level and counts down when it comes back.

## Implementation notes

Nothing is known beforehand to go well.  The cursor may point at no token, a table may lack what is
looked up in it, and the routines call each other without a measure, as a partial fixed point: a
walk that does not end has no result.  A routine notes that it is entered and where, which is what
statements about the calls in the middle of a walk refer to.
-/

namespace Reckoner

open Parsing (additive? multiplicative?)

namespace Walk

/-- Where a walk stands. -/
structure Stand where
  /-- The index of the next token. -/
  cursor : Nat
  /-- How many groups, calls, signs and exponents are open. -/
  depth : Nat
  /-- How many parentheses are open. -/
  parentheses : Nat
deriving DecidableEq

/-- The routines of a walk, one for each rule and one for calls. -/
inductive Routine where
  | expression
  | term
  | factor
  | power
  | operand
  | call
deriving DecidableEq

/-- What a walk is given. -/
structure Input where
  /-- The greatest allowed depth. -/
  limit : Int
  /-- The tokens that it goes over. -/
  tokens : List Token

/-- What a walk keeps. -/
structure Trail where
  /-- Where the walk stands. -/
  stand : Stand
  /-- The routines entered so far and where each was entered, the last one first. -/
  entered : List (Routine × Stand)

/-- Why a walk stops. -/
inductive Stop where
  /-- The tokens are no expression, or were misused. -/
  | fault (cause : Fault SyntaxError)
  /-- There is no token at the cursor. -/
  | noToken
  /-- A table has no entry for a token. -/
  | noEntry

end Walk

open Walk in
/-- A computation that moves along a trail, and returns a value or stops if it ends at all. -/
abbrev Walk (α : Type) := ExceptT Stop (StateT Trail Option) α

namespace Walk

/-- How a walk ends, and the trail that it leaves. -/
def run {α : Type} (walk : Walk α) (start : Trail) : Option (Except Stop α × Trail) :=
  StateT.run (ExceptT.run walk) start

/-- Changes where the walk stands. -/
def move (f : Stand → Stand) : Walk Unit :=
  modify fun trail => { trail with stand := f trail.stand }

/-- Notes that a routine is entered. -/
def note (routine : Routine) : Walk Unit :=
  modify fun trail => { trail with entered := (routine, trail.stand) :: trail.entered }

/-- Stops for a syntax error. -/
def fail {α : Type} (cause : SyntaxError) : Walk α := throw (.fault (.failure cause))

/-- What a table has for a token. -/
def entry {α : Type} : Option α → Walk α
  | some found => return found
  | none => throw .noEntry

/-- Comes back from one level deeper. -/
def leave : Walk Unit := move fun stand => { stand with depth := stand.depth - 1 }

/-- Counts a parenthesis that was opened. -/
def countOpening : Walk Unit :=
  move fun stand => { stand with parentheses := stand.parentheses + 1 }

/-- Counts a parenthesis that was closed. -/
def countClosing : Walk Unit :=
  move fun stand => { stand with parentheses := stand.parentheses - 1 }

namespace Input

variable (input : Input)

/-- The token at the cursor. -/
def current : Walk Token := do
  match input.tokens[(← get).stand.cursor]? with
  | some token => return token
  | none => throw .noToken

/-- Passes the token at the cursor.  The cursor stays at the last token. -/
def advance : Walk Token := do
  let token ← input.current
  move fun stand =>
    if stand.cursor + 1 < input.tokens.length then { stand with cursor := stand.cursor + 1 }
    else stand
  return token

/-- Passes the token at the cursor if it is of the given kind. -/
def accept (kind : TokenKind) : Walk Bool := do
  if (← input.current).kind = kind then
    let _ ← input.advance
    return true
  else return false

/-- Stops at a token that cannot stand where something else is expected. -/
def unexpected {α : Type} (expected : Expectation) : Walk α := do
  let token ← input.current
  let parentheses := (← get).stand.parentheses
  if token.kind = .finish then
    if parentheses = 0 then fail (.endOfInput expected token.position)
    else fail (.endInParentheses expected token.position)
  else if token.kind = .rightParen ∧ parentheses = 0 then fail (.strayClosing token.position)
  else fail (.unexpectedToken expected token.text token.position)

/-- Passes an opening parenthesis. -/
def expectOpening (expected : Expectation) : Walk Token := do
  if (← input.current).kind = .leftParen then input.advance
  else input.unexpected expected

/-- Passes the parenthesis that closes what was opened at the given position. -/
def expectClosing (opening : Int) : Walk Unit := do
  let token ← input.current
  if token.kind = .rightParen then
    let _ ← input.advance
  else if token.kind = .finish then fail (.unclosed opening)
  else fail (.expectedClosing token.text token.position)

/-- Goes one level deeper, unless that exceeds the limit. -/
def enter : Walk Unit := do
  move fun stand => { stand with depth := stand.depth + 1 }
  if input.limit < (← get).stand.depth then
    fail (.tooDeeplyNested input.limit (← input.current).position)

mutual

/-- Terms joined by `+` and `-`. -/
def expression (input : Input) : Walk Expr := do
  note .expression
  input |>.sum (← input |>.term)
partial_fixpoint

/-- The expression that starts with the terms parsed so far. -/
def sum (input : Input) (left : Expr) : Walk Expr := do
  if (additive? (← input.current).kind).isSome then
    let operator ← entry (additive? (← input.advance).kind)
    input |>.sum (.binary operator left (← input |>.term))
  else return left
partial_fixpoint

/-- Signed factors joined by `*` and `/`. -/
def term (input : Input) : Walk Expr := do
  note .term
  input |>.product (← input |>.factor)
partial_fixpoint

/-- The term that starts with the factors parsed so far. -/
def product (input : Input) (left : Expr) : Walk Expr := do
  if (multiplicative? (← input.current).kind).isSome then
    let operator ← entry (multiplicative? (← input.advance).kind)
    input |>.product (.binary operator left (← input |>.factor))
  else return left
partial_fixpoint

/-- A minus sign and a signed factor, or a power. -/
def factor (input : Input) : Walk Expr := do
  note .factor
  if ← input.accept .minus then
    input.enter
    let operand ← input |>.factor
    leave
    return .negate operand
  else input |>.power
partial_fixpoint

/-- An operand, optionally raised to a signed factor. -/
def power (input : Input) : Walk Expr := do
  note .power
  let base ← input |>.operand
  if ← input.accept .caret then
    input.enter
    let exponent ← input |>.factor
    leave
    return .binary .pow base exponent
  else return base
partial_fixpoint

/-- A numeral, a constant, a call, or an expression in parentheses. -/
def operand (input : Input) : Walk Expr := do
  note .operand
  let token ← input.current
  match token.kind with
  | .number =>
      let _ ← input.advance
      match Decimal.readNumber? token.text with
      | some value => return .number value
      | none => throw (.fault (.misuse (.unreadableNumeral token.text)))
  | .leftParen =>
      let _ ← input.advance
      input.enter
      countOpening
      let inner ← input |>.expression
      input.expectClosing token.position
      countClosing
      leave
      return inner
  | .name =>
      if (Builtin.ofName? token.text).isSome then input |>.call
      else if (Constant.ofName? token.text).isSome then
        let _ ← input.advance
        let constant ← entry (Constant.ofName? token.text)
        return .constant constant.name constant.value
      else fail (.unknownName token.text token.position)
  | _ => input.unexpected .operand
partial_fixpoint

/-- The name of a function and its arguments. -/
def call (input : Input) : Walk Expr := do
  note .call
  let name ← input.advance
  let function ← entry (Builtin.ofName? name.text)
  let opening ← input.expectOpening (.argumentsOf name.text)
  input.enter
  countOpening
  let listed ← input |>.arguments
  input.expectClosing opening.position
  countClosing
  leave
  if listed.length = function.arity then return .call function.name listed
  else fail (.argumentCount function.name function.arity listed.length name.position)
partial_fixpoint

/-- Expressions separated by commas, or nothing in front of a closing parenthesis. -/
def arguments (input : Input) : Walk (List Expr) := do
  if (← input.current).kind = .rightParen then return []
  else input |>.furtherArguments [← input |>.expression]
partial_fixpoint

/-- The arguments behind those parsed so far, which are in reverse order. -/
def furtherArguments (input : Input) (found : List Expr) : Walk (List Expr) := do
  if ← input.accept .comma then
    input |>.furtherArguments ((← input |>.expression) :: found)
  else return found.reverse
partial_fixpoint

end

/-- The walk of a routine. -/
def walk : Routine → Walk Expr
  | .expression => input.expression
  | .term => input.term
  | .factor => input.factor
  | .power => input.power
  | .operand => input.operand
  | .call => input.call

/-- Parses the tokens up to the first end token as one expression. -/
def parse : Walk Expr := do
  if input.tokens.getLast?.map (·.kind) = some .finish then
    if input.tokens.head?.map (·.kind) = some .finish then fail .emptyExpression
    else
      let parsed ← input.expression
      let token ← input.current
      if token.kind = .finish then return parsed
      else if token.kind = .rightParen then fail (.strayClosing token.position)
      else fail (.trailingInput token.text token.position)
  else throw (.fault (.misuse .missingEndToken))

end Input

/-- The trail before the first step. -/
def origin : Trail := ⟨⟨0, 0, 0⟩, []⟩

end Walk

end Reckoner
