import Reckoner.Text.Quoted

/-!
# JSON strings in ASCII

The quoted form of a text in JSON that uses ASCII alone: control characters and everything outside
ASCII are escaped by their UTF-16 units.
-/

namespace Reckoner.Text

/-- The escape of one UTF-16 unit. -/
def unitEscape (unit : Nat) : List Char := backslash :: 'u' :: hexDigits 4 unit

/-- The UTF-16 units of a code point. -/
def units16 (point : Nat) : List Nat :=
  if point < 0x10000 then [point]
  else
    let offset := point - 0x10000
    [0xd800 + offset / 0x400, 0xdc00 + offset % 0x400]

/-- The written form of one character. -/
def jsonChar (c : Char) : List Char :=
  if c = doubleQuote ∨ c = backslash then [backslash, c]
  else if c = '\n' then [backslash, 'n']
  else if c = '\r' then [backslash, 'r']
  else if c = '\t' then [backslash, 't']
  else if c.toNat = 8 then [backslash, 'b']
  else if c.toNat = 12 then [backslash, 'f']
  else if 32 ≤ c.toNat ∧ c.toNat ≤ 126 then [c]
  else (units16 c.toNat).flatMap unitEscape

/-- A text as a JSON string. -/
def jsonString (text : String) : String :=
  String.ofList (doubleQuote :: (text.toList.flatMap jsonChar ++ [doubleQuote]))

end Reckoner.Text
