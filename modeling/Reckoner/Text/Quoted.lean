import Reckoner.Text.Printable

/-!
# Quoted text

The form in which messages show a piece of the input: between quotes, with escapes for the quote in
use, the backslash and everything that is not printable.

## Implementation notes

Double quotes are used exactly when the text holds a single quote and no double quote, so that a
quote is escaped only in a text that holds both.
-/

namespace Reckoner.Text

/-- The single quote character. -/
def singleQuote : Char := Char.ofNat 39

/-- The double quote character. -/
def doubleQuote : Char := Char.ofNat 34

/-- The backslash character. -/
def backslash : Char := Char.ofNat 92

/-- The lower-case hexadecimal digits of a number in a field of fixed width. -/
def hexDigits : (width : Nat) → Nat → List Char
  | 0, _ => []
  | width + 1, n => hexDigits width (n / 16) ++ [Nat.digitChar (n % 16)]

/-- The written form of one character between the given quotes. -/
def quotedChar (quote c : Char) : List Char :=
  if c = quote ∨ c = backslash then [backslash, c]
  else if c = '\n' then [backslash, 'n']
  else if c = '\r' then [backslash, 'r']
  else if c = '\t' then [backslash, 't']
  else if isPrintable c then [c]
  else if c.toNat < 0x100 then backslash :: 'x' :: hexDigits 2 c.toNat
  else if c.toNat < 0x10000 then backslash :: 'u' :: hexDigits 4 c.toNat
  else backslash :: 'U' :: hexDigits 8 c.toNat

/-- The quote character that a text is shown between. -/
def quoteFor (cs : List Char) : Char :=
  if cs.contains singleQuote && !cs.contains doubleQuote then doubleQuote else singleQuote

/-- A text between quotes. -/
def quoted (text : String) : String :=
  let cs := text.toList
  let quote := quoteFor cs
  String.ofList (quote :: (cs.flatMap (quotedChar quote) ++ [quote]))

end Reckoner.Text
