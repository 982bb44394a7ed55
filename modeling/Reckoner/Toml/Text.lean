import Reckoner.Text.Quoted

/-!
# Texts and keys in TOML

The four kinds of text of the format: literal or with escapes, each on one line or on several.  A
reader takes what it reads from the front of the input, behind the opening quotes, and returns the
rest of the input.

## Implementation notes

A text with escapes is read character by character in one of five modes, so that the reader
recurses on the input alone.
-/

namespace Reckoner.Toml

open Reckoner.Text (singleQuote doubleQuote backslash)

/-- Blanks inside a line. -/
def isSpace (c : Char) : Bool := c == ' ' || c == '\t'

/-- Blanks and line breaks. -/
def isGap (c : Char) : Bool := isSpace c || c == '\n'

/-- Control characters, which no text may hold except as below. -/
def isControl (c : Char) : Bool := decide (c.toNat < 32) || decide (c.toNat = 127)

/-- The characters that a text may not hold; a text on several lines may hold line breaks. -/
def isForbidden (lines : Bool) (c : Char) : Bool :=
  isControl c && c != '\t' && !(lines && c == '\n')

/-- Whether a text starts with a given text. -/
def startsWith (start cs : List Char) : Bool := start.isPrefixOf cs

/-- A literal text on one line. -/
def readLiteral (cs : List Char) : Option (String × List Char) :=
  let text := cs.takeWhile (· != singleQuote)
  match cs.dropWhile (· != singleQuote) with
  | [] => none
  | _ :: rest => if text.any (isForbidden false) then none else some (String.ofList text, rest)

/-- A literal text on several lines, behind the reversed characters read before. -/
def readLiteralLines (found : List Char) : List Char → Option (List Char × List Char)
  | [] => none
  | c :: rest =>
      if startsWith [singleQuote, singleQuote, singleQuote] (c :: rest) then
        some (found.reverse, rest.drop 2)
      else if isForbidden true c then none
      else readLiteralLines (c :: found) rest

/-- What the next character of a text with escapes belongs to. -/
inductive Mode where
  /-- The text itself. -/
  | plain
  /-- The character behind a backslash. -/
  | escape
  /-- The hexadecimal digits of a character. -/
  | hex (left value : Nat)
  /-- Blanks in front of an escaped line break. -/
  | beforeBreak
  /-- Blanks behind an escaped line break. -/
  | afterBreak
deriving DecidableEq

/-- The character that a one-letter escape stands for. -/
def escaped? (c : Char) : Option Char :=
  if c = 'b' then some (Char.ofNat 8)
  else if c = 't' then some '\t'
  else if c = 'n' then some '\n'
  else if c = 'f' then some (Char.ofNat 12)
  else if c = 'r' then some '\r'
  else if c = doubleQuote ∨ c = backslash then some c
  else none

/-- The value of a hexadecimal digit. -/
def hexValue? (c : Char) : Option Nat :=
  let n := c.toNat
  if 48 ≤ n ∧ n ≤ 57 then some (n - 48)
  else if 65 ≤ n ∧ n ≤ 70 then some (n - 55)
  else if 97 ≤ n ∧ n ≤ 102 then some (n - 87)
  else none

/-- A text with escapes, behind the reversed characters read before. -/
def readEscaped (lines : Bool) (mode : Mode) (found : List Char) :
    List Char → Option (List Char × List Char)
  | [] => none
  | c :: rest =>
      match mode with
      | .escape =>
          if c = 'u' then readEscaped lines (.hex 4 0) found rest
          else if c = 'U' then readEscaped lines (.hex 8 0) found rest
          else if lines && c == '\n' then readEscaped lines .afterBreak found rest
          else if lines && isSpace c then readEscaped lines .beforeBreak found rest
          else
            match escaped? c with
            | some plain => readEscaped lines .plain (plain :: found) rest
            | none => none
      | .hex left value =>
          match hexValue? c with
          | none => none
          | some digit =>
              let value := 16 * value + digit
              if 1 < left then readEscaped lines (.hex (left - 1) value) found rest
              else if value.isValidChar then
                readEscaped lines .plain (Char.ofNat value :: found) rest
              else none
      | .beforeBreak =>
          if isSpace c then readEscaped lines .beforeBreak found rest
          else if c = '\n' then readEscaped lines .afterBreak found rest
          else none
      | _ =>
          if mode = .afterBreak ∧ isGap c then readEscaped lines .afterBreak found rest
          else if c = backslash then readEscaped lines .escape found rest
          else if c = doubleQuote ∧ !lines then some (found.reverse, rest)
          else if c = doubleQuote ∧ startsWith [doubleQuote, doubleQuote] rest then
            some (found.reverse, rest.drop 2)
          else if isForbidden lines c then none
          else readEscaped lines .plain (c :: found) rest

/-- At most two quotes that directly follow the closing quotes belong to the text. -/
def withTrailingQuotes (quote : Char) (text rest : List Char) : String × List Char :=
  let trailing := (rest.takeWhile (· == quote)).take 2
  (String.ofList (text ++ trailing), rest.drop trailing.length)

/-- The input without a line break at its front. -/
def skipBreak : List Char → List Char
  | '\n' :: rest => rest
  | cs => cs

/-- A text of any kind, if the input starts with a quote. -/
def readText? (cs : List Char) : Option (String × List Char) :=
  if startsWith [doubleQuote, doubleQuote, doubleQuote] cs then
    (readEscaped true .plain [] (skipBreak (cs.drop 3))).map fun (text, rest) =>
      withTrailingQuotes doubleQuote text rest
  else if startsWith [doubleQuote] cs then
    (readEscaped false .plain [] (cs.drop 1)).map fun (text, rest) => (String.ofList text, rest)
  else if startsWith [singleQuote, singleQuote, singleQuote] cs then
    (readLiteralLines [] (skipBreak (cs.drop 3))).map fun (text, rest) =>
      withTrailingQuotes singleQuote text rest
  else if startsWith [singleQuote] cs then readLiteral (cs.drop 1)
  else none

/-- The characters of a key without quotes. -/
def isKeyChar (c : Char) : Bool := c.isAlphanum || c == '-' || c == '_'

/-- One part of a key: bare, or a text on one line. -/
def readKeyPart : List Char → Option (String × List Char)
  | [] => none
  | c :: rest =>
      if isKeyChar c then
        some (String.ofList (c :: rest.takeWhile isKeyChar), rest.dropWhile isKeyChar)
      else if c = singleQuote then readLiteral rest
      else if c = doubleQuote then
        (readEscaped false .plain [] rest).map fun (text, rest) => (String.ofList text, rest)
      else none

end Reckoner.Toml
