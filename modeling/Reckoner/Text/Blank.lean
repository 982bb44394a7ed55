/-!
# Blank characters

Three notions of blank that differ outside the common ones: the layout characters between lexemes,
the ASCII blanks around a numeral, and the blanks of the whole character set.
-/

namespace Reckoner.Text

/-- Blanks that may stand between lexemes: space, tab, line feed and carriage return. -/
def isLayout (c : Char) : Bool := c == ' ' || c == '\t' || c == '\n' || c == '\r'

/-- ASCII blanks: the space and the characters from tab to carriage return. -/
def isAsciiBlank (c : Char) : Bool := c == ' ' || decide (9 ≤ c.toNat ∧ c.toNat ≤ 13)

/-- Blanks outside ASCII: next line, and the space, line and paragraph separators. -/
def isWideBlank (c : Char) : Bool :=
  [0x85, 0xa0, 0x1680, 0x2028, 0x2029, 0x202f, 0x205f, 0x3000].contains c.toNat ||
    decide (0x2000 ≤ c.toNat ∧ c.toNat ≤ 0x200a)

/-- Characters with the property White_Space. -/
def isBlank (c : Char) : Bool := isAsciiBlank c || isWideBlank c

/-- A text without the leading and trailing characters of a class. -/
def trim (inClass : Char → Bool) (cs : List Char) : List Char :=
  ((cs.dropWhile inClass).reverse.dropWhile inClass).reverse

end Reckoner.Text
