/-!
# Tokens

The words of the expression language: numerals, names, eight symbols, and the mark that ends every
list of tokens.
-/

namespace Reckoner

/-- What a token is. -/
inductive TokenKind where
  | number
  | name
  | plus
  | minus
  | star
  | slash
  | caret
  | leftParen
  | rightParen
  | comma
  /-- The end of the input. -/
  | finish
deriving DecidableEq

namespace TokenKind

/-- The published name of a kind. -/
def label : TokenKind → String
  | .number => "number"
  | .name => "ident"
  | .plus => "plus"
  | .minus => "minus"
  | .star => "star"
  | .slash => "slash"
  | .caret => "caret"
  | .leftParen => "lparen"
  | .rightParen => "rparen"
  | .comma => "comma"
  | .finish => "eof"

/-- Every kind, in the order of their declaration. -/
def all : List TokenKind :=
  [.number, .name, .plus, .minus, .star, .slash, .caret, .leftParen, .rightParen, .comma, .finish]

/-- The kind with the given published name. -/
def ofLabel? (label : String) : Option TokenKind := all.find? (·.label = label)

/-- The kind of the token that a single character makes. -/
def ofSymbol? (c : Char) : Option TokenKind :=
  if c = '+' then some .plus
  else if c = '-' then some .minus
  else if c = '*' then some .star
  else if c = '/' then some .slash
  else if c = '^' then some .caret
  else if c = '(' then some .leftParen
  else if c = ')' then some .rightParen
  else if c = ',' then some .comma
  else none

end TokenKind

/-- A token with its text and the offset of its first character. -/
structure Token where
  /-- What the token is. -/
  kind : TokenKind
  /-- The exact text. -/
  text : String
  /-- The offset in the source, counted in characters. -/
  position : Int
deriving DecidableEq

end Reckoner
