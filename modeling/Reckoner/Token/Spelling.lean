import Reckoner.Text.Blank
import Reckoner.Token

/-!
# Spellings

The lexical language apart from any way of scanning: a text is a sequence of lexemes with layout in
front of each and at the end, where layout has to separate two neighbouring words, that is, names or
numerals.  A spelling determines its text and its tokens.
-/

namespace Reckoner

open Text (isLayout)

/-- A numeral: digits with at most one point among or around them, and at least one digit. -/
def IsNumeral (cs : List Char) : Prop :=
  (cs ≠ [] ∧ ∀ c ∈ cs, '0' ≤ c ∧ c ≤ '9') ∨
    ∃ whole fraction, cs = whole ++ '.' :: fraction ∧ whole ++ fraction ≠ [] ∧
      ∀ c ∈ whole ++ fraction, '0' ≤ c ∧ c ≤ '9'

/-- A name: letters from `a` to `z`, at least one. -/
def IsName (cs : List Char) : Prop := cs ≠ [] ∧ ∀ c ∈ cs, 'a' ≤ c ∧ c ≤ 'z'

/-- The texts that are lexemes of each kind. -/
inductive IsLexeme : TokenKind → List Char → Prop
  | number {cs} : IsNumeral cs → IsLexeme .number cs
  | name {cs} : IsName cs → IsLexeme .name cs
  | plus : IsLexeme .plus ['+']
  | minus : IsLexeme .minus ['-']
  | star : IsLexeme .star ['*']
  | slash : IsLexeme .slash ['/']
  | caret : IsLexeme .caret ['^']
  | leftParen : IsLexeme .leftParen ['(']
  | rightParen : IsLexeme .rightParen [')']
  | comma : IsLexeme .comma [',']

/-- Whether lexemes of a kind are words, which layout has to keep apart. -/
def TokenKind.isWord : TokenKind → Bool
  | .number => true
  | .name => true
  | _ => false

/-- A lexeme with the layout in front of it. -/
structure Piece where
  /-- The layout. -/
  layout : List Char
  /-- What the lexeme is. -/
  kind : TokenKind
  /-- The characters of the lexeme. -/
  lexeme : List Char
deriving DecidableEq

/-- Pieces and the layout behind the last of them. -/
structure Spelling where
  /-- The pieces in order. -/
  pieces : List Piece
  /-- The layout at the end. -/
  trailing : List Char
deriving DecidableEq

namespace Spelling

/-- Layout and lexemes are what they should be. -/
def Lexical (spelling : Spelling) : Prop :=
  (∀ piece ∈ spelling.pieces,
    (∀ c ∈ piece.layout, isLayout c = true) ∧ IsLexeme piece.kind piece.lexeme) ∧
  ∀ c ∈ spelling.trailing, isLayout c = true

/-- No two neighbouring words touch, given whether a word stands directly in front. -/
def SeparatedFrom : (word : Bool) → List Piece → Prop
  | _, [] => True
  | word, piece :: pieces =>
      (word = true → piece.kind.isWord = true → piece.layout ≠ []) ∧
        SeparatedFrom piece.kind.isWord pieces

/-- No two neighbouring words touch. -/
def Separated (spelling : Spelling) : Prop := SeparatedFrom false spelling.pieces

/-- The text that is spelled. -/
def text (spelling : Spelling) : List Char :=
  spelling.pieces.flatMap (fun piece => piece.layout ++ piece.lexeme) ++ spelling.trailing

/-- The tokens of pieces, the first of which starts at the given offset, and of the end. -/
def tokensFrom (trailing : Nat) : (offset : Nat) → List Piece → List Token
  | offset, [] => [⟨.finish, "", (offset + trailing : Nat)⟩]
  | offset, piece :: pieces =>
      ⟨piece.kind, String.ofList piece.lexeme, (offset + piece.layout.length : Nat)⟩ ::
        tokensFrom trailing (offset + piece.layout.length + piece.lexeme.length) pieces

/-- The tokens that are spelled. -/
def tokens (spelling : Spelling) : List Token :=
  tokensFrom spelling.trailing.length 0 spelling.pieces

end Spelling

end Reckoner
