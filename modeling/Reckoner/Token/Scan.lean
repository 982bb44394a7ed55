import Reckoner.Failure
import Reckoner.Text.Blank
import Reckoner.Text.Digit
import Reckoner.Text.Letter
import Reckoner.Token

/-!
# Splitting a text into tokens

Numerals are digits with at most one point, names are runs of the letters from `a` to `z`, and eight
characters are tokens of their own.  Each lexeme is as long as possible; a numeral may not be
followed by a point or a letter, and a name may not be followed by a digit or a point.

## Implementation notes

`readLexeme` reads one lexeme from a text that starts with one and returns what follows, which is
shorter than the text; `scanFrom` repeats it and skips layout.  Tokens are collected in reverse.
-/

namespace Reckoner.Token

open Text (isLayout isLetter isDigit)

/-- Whether a character belongs to a name. -/
def isNameChar (c : Char) : Bool := decide (97 ≤ c.toNat ∧ c.toNat ≤ 122)

/-- Whether a character is a digit of a numeral. -/
def isNumeralDigit (c : Char) : Bool := decide (48 ≤ c.toNat ∧ c.toNat ≤ 57)

/-- The longest numeral at the front of a text. -/
def numeralOf (cs : List Char) : List Char :=
  cs.takeWhile isNumeralDigit ++
    match cs.dropWhile isNumeralDigit with
    | '.' :: afterPoint => '.' :: afterPoint.takeWhile isNumeralDigit
    | _ => []

/-- What follows the longest numeral at the front of a text. -/
def afterNumeral (cs : List Char) : List Char :=
  match cs.dropWhile isNumeralDigit with
  | '.' :: afterPoint => afterPoint.dropWhile isNumeralDigit
  | rest => rest

/-- A lexeme and the text that follows it. -/
structure Lexeme where
  /-- What the lexeme is. -/
  kind : TokenKind
  /-- Its characters. -/
  text : List Char
  /-- The text behind it. -/
  rest : List Char

/-- The numeral at the front of a text that starts with a digit or a point. -/
def readNumeral (position : Nat) (cs : List Char) : Except LexicalError Lexeme :=
  let numeral := numeralOf cs
  let rest := afterNumeral cs
  if numeral = ['.'] then .error (.lonePoint position)
  else
    match rest with
    | [] => .ok ⟨.number, numeral, rest⟩
    | c :: _ =>
        if c = '.' then
          .error (.secondPoint (String.ofList numeral) (position + numeral.length))
        else if isLetter c then
          .error (.afterNumeral (String.ofList numeral) c (position + numeral.length))
        else .ok ⟨.number, numeral, rest⟩

/-- The name at the front of a text that starts with a letter of a name. -/
def readName (position : Nat) (cs : List Char) : Except LexicalError Lexeme :=
  let name := cs.takeWhile isNameChar
  let rest := cs.dropWhile isNameChar
  match rest with
  | [] => .ok ⟨.name, name, rest⟩
  | c :: _ =>
      if isDigit c || c == '.' then
        .error (.afterName (String.ofList name) c (position + name.length))
      else .ok ⟨.name, name, rest⟩

/-- The lexeme at the front of a text that starts with the given character, which is no layout. -/
def readLexeme (position : Nat) (c : Char) (following : List Char) : Except LexicalError Lexeme :=
  if isNumeralDigit c || c == '.' then readNumeral position (c :: following)
  else if isNameChar c then readName position (c :: following)
  else
    match TokenKind.ofSymbol? c with
    | some kind => .ok ⟨kind, [c], following⟩
    | none => .error (.unexpectedCharacter c position)

section Length

theorem numeralOf_append_afterNumeral (cs : List Char) :
    numeralOf cs ++ afterNumeral cs = cs := by
  unfold numeralOf afterNumeral
  split
  · rename_i afterPoint heq
    simp [← heq]
  · simp

theorem numeralOf_ne_nil {c : Char} (cs : List Char)
    (h : (isNumeralDigit c || c == '.') = true) : numeralOf (c :: cs) ≠ [] := by
  unfold numeralOf
  by_cases digit : isNumeralDigit c = true
  · simp [digit]
  · have point : c = '.' := by simpa [digit] using h
    subst point
    simp [digit]

theorem length_afterNumeral_lt {c : Char} (cs : List Char)
    (h : (isNumeralDigit c || c == '.') = true) :
    (afterNumeral (c :: cs)).length < (c :: cs).length := by
  have parts := congrArg List.length (numeralOf_append_afterNumeral (c :: cs))
  have positive := List.length_pos_iff.2 (numeralOf_ne_nil cs h)
  rw [List.length_append] at parts
  omega

theorem length_dropWhile_lt {p : Char → Bool} {c : Char} (cs : List Char) (h : p c = true) :
    ((c :: cs).dropWhile p).length < (c :: cs).length := by
  rw [List.dropWhile_cons_of_pos h]
  exact Nat.lt_succ_of_le (List.dropWhile_sublist p).length_le

theorem readLexeme_rest_lt {position : Nat} {c : Char} {following : List Char} {lexeme : Lexeme}
    (h : readLexeme position c following = .ok lexeme) :
    lexeme.rest.length < (c :: following).length := by
  unfold readLexeme at h
  split at h
  · rename_i numeralStart
    have shorter := length_afterNumeral_lt following numeralStart
    unfold readNumeral at h
    grind
  · split at h
    · rename_i nameStart
      have shorter := length_dropWhile_lt following nameStart
      unfold readName at h
      grind
    · split at h
      · cases h; simp
      · cases h

end Length

/-- The tokens of a text whose first character has the given offset, behind the reversed list of
tokens found before it. -/
def scanFrom (position : Nat) (found : List Token) (cs : List Char) :
    Except LexicalError (List Token) :=
  match cs with
  | [] => .ok (found.reverse ++ [⟨.finish, "", position⟩])
  | c :: following =>
      if isLayout c then scanFrom (position + 1) found following
      else
        match _read : readLexeme position c following with
        | .error cause => .error cause
        | .ok lexeme =>
            scanFrom (position + lexeme.text.length)
              (⟨lexeme.kind, String.ofList lexeme.text, position⟩ :: found) lexeme.rest
termination_by cs.length
decreasing_by
  · simp
  · exact readLexeme_rest_lt _read

/-- The tokens of a text, ended by a token behind its last character. -/
def scan (source : String) : Except LexicalError (List Token) := scanFrom 0 [] source.toList

end Reckoner.Token
