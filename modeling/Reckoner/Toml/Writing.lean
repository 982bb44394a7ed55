import Reckoner.Toml.Reading

/-!
# Writing TOML

Documents as data, with the text in which each is written and with what it stands for.  A document
is a sequence of lines, each with at most one statement, blanks around it and a comment behind it.
Decimal numbers, truth values, texts with escapes, lists and tables in braces are written in one way
each; dates and the other notations for texts and numbers are left out.

## Implementation notes

What must not be written is left out by the types: digits, blanks and comments carry the proof that
they consist of the right characters, and a dotted name has at least one part.
-/

namespace Reckoner.Toml

open Text (backslash doubleQuote)

/-- One or more ASCII digits. -/
structure Digits where
  /-- The digits. -/
  chars : List Char
  nonempty : chars ≠ []
  digits : ∀ c ∈ chars, Decimal.isAsciiDigit c = true

/-- A single digit. -/
def Digits.single (c : Char) (digit : Decimal.isAsciiDigit c = true) : Digits where
  chars := [c]
  nonempty := List.cons_ne_nil c []
  digits := List.forall_mem_singleton.2 digit

/-- A decimal number to be written. -/
structure PlainNumeral where
  /-- Whether there is a minus sign in front. -/
  negative : Bool
  /-- The digits in front of the point. -/
  whole : Digits
  /-- The digits behind the point, if there is one. -/
  fraction : Option Digits
  /-- The sign and the digits of the exponent, if there is one. -/
  exponent : Option (Bool × Digits)
  /-- Only zero itself starts with the digit zero. -/
  leading : whole.chars.head? = some '0' → whole.chars = ['0']

namespace PlainNumeral

/-- A minus sign, if there is one. -/
def signChars (negative : Bool) : List Char := if negative then ['-'] else []

/-- A point and the digits behind it, if there are any. -/
def fractionChars : Option Digits → List Char
  | none => []
  | some digits => '.' :: digits.chars

/-- The mark of an exponent, its sign and its digits, if there is one. -/
def exponentChars : Option (Bool × Digits) → List Char
  | none => []
  | some (negative, digits) => 'e' :: (signChars negative ++ digits.chars)

/-- The value of an exponent. -/
def exponentValue (negative : Bool) (digits : Digits) : Int :=
  if negative then -(digitsValue digits.chars : Int) else digitsValue digits.chars

/-- The text of the number. -/
def chars (numeral : PlainNumeral) : List Char :=
  signChars numeral.negative ++ (numeral.whole.chars ++
    (fractionChars numeral.fraction ++ exponentChars numeral.exponent))

/-- The natural number with the given digits. -/
def ofDigits (digits : Digits) (leading : digits.chars.head? = some '0' → digits.chars = ['0']) :
    PlainNumeral := ⟨false, digits, none, none, leading⟩

/-- The number as it is read. -/
def numeral (numeral : PlainNumeral) : Numeral where
  negative := numeral.negative
  whole := numeral.whole.chars
  fraction := numeral.fraction.map (·.chars)
  exponent := numeral.exponent.map fun (negative, digits) => exponentValue negative digits

section Integers

variable {digits : Digits} {leading : digits.chars.head? = some '0' → digits.chars = ['0']}

@[simp]
theorem chars_ofDigits : (ofDigits digits leading).chars = digits.chars :=
  List.append_nil digits.chars

theorem value_ofDigits_of_long (long : greatestDigitCount < digits.chars.length) :
    (ofDigits digits leading).numeral.value = .error (.longInteger digits.chars.length) :=
  if_pos long

end Integers

end PlainNumeral

/-- A character of a text between double quotes.  Those that must not stand there are escaped. -/
def escapedChars (c : Char) : List Char :=
  if c = doubleQuote ∨ c = backslash then [backslash, c]
  else if isForbidden false c then backslash :: 'u' :: Text.hexDigits 4 c.toNat
  else [c]

/-- A text between double quotes. -/
def quotedChars (content : String) : List Char :=
  doubleQuote :: (content.toList.flatMap escapedChars ++ [doubleQuote])

/-- A part of a name, between quotes unless it can do without. -/
def keyChars (part : String) : List Char :=
  if part.toList ≠ [] ∧ part.toList.all isKeyChar then part.toList else quotedChars part

/-- A dotted name. -/
structure Name where
  /-- The first part. -/
  first : String
  /-- The other parts. -/
  others : List String

namespace Name

/-- The name as a path. -/
def path (name : Name) : Path := name.first :: name.others

/-- The text of the name. -/
def chars (name : Name) : List Char :=
  keyChars name.first ++ name.others.flatMap fun part => '.' :: keyChars part

end Name

/-- A value to be written. -/
inductive Literal where
  /-- A truth value. -/
  | boolean (value : Bool)
  /-- A decimal number. -/
  | number (numeral : PlainNumeral)
  /-- An infinity. -/
  | infinity (negative : Bool)
  /-- NaN. -/
  | nan
  /-- A text. -/
  | text (content : String)
  /-- A list. -/
  | list (items : List Literal)
  /-- A table in braces. -/
  | table (entries : List (Name × Literal))

namespace Literal

mutual

/-- The text of a value. -/
def chars : Literal → List Char
  | .boolean value => if value then ['t', 'r', 'u', 'e'] else ['f', 'a', 'l', 's', 'e']
  | .number numeral => numeral.chars
  | .infinity negative => PlainNumeral.signChars negative ++ ['i', 'n', 'f']
  | .nan => ['n', 'a', 'n']
  | .text content => quotedChars content
  | .list [] => ['[', ']']
  | .list (item :: items) => '[' :: (chars item ++ laterItems items)
  | .table [] => ['{', '}']
  | .table ((name, value) :: entries) =>
      '{' :: (name.chars ++ (' ' :: '=' :: ' ' :: (chars value ++ laterEntries entries)))

/-- The text behind an item of a list: the items that follow and the bracket. -/
def laterItems : List Literal → List Char
  | [] => [']']
  | item :: items => ',' :: ' ' :: (chars item ++ laterItems items)

/-- The text behind an entry in braces: the entries that follow and the brace. -/
def laterEntries : List (Name × Literal) → List Char
  | [] => ['}']
  | (name, value) :: entries =>
      ',' :: ' ' :: (name.chars ++ (' ' :: '=' :: ' ' :: (chars value ++ laterEntries entries)))

end

mutual

/-- What a value stands for. -/
def value : Literal → Except ReadError Data
  | .boolean value => .ok (.boolean value)
  | .number numeral => numeral.numeral.value
  | .infinity negative => .ok (.real (.infinite negative))
  | .nan => .ok (.real .nan)
  | .text content => .ok (.text content)
  | .list items => (values items).map .list
  | .table entries => (tableValue [] [] entries).map .table

/-- What items stand for, in order. -/
def values : List Literal → Except ReadError (List Data)
  | [] => .ok []
  | item :: items => do
      let first ← value item
      return first :: (← values items)

/-- The table of entries behind those that were found. -/
def tableValue (found : Entries) (closed : List Path) : List (Name × Literal) →
    Except ReadError Entries
  | [] => .ok found
  | (name, literal) :: entries => do
      let inner ← value literal
      let (found, closed) ← orMalformed (insertInline? found closed name.path inner)
      tableValue found closed entries

end

end Literal

/-- A statement to be written. -/
inductive Statement where
  /-- The header of a table. -/
  | table (name : Name)
  /-- The header of an item of a list of tables. -/
  | item (name : Name)
  /-- An entry. -/
  | entry (name : Name) (literal : Literal)

namespace Statement

/-- The text of a statement. -/
def chars : Statement → List Char
  | .table name => '[' :: (name.chars ++ [']'])
  | .item name => '[' :: '[' :: (name.chars ++ [']', ']'])
  | .entry name literal => name.chars ++ (' ' :: '=' :: ' ' :: literal.chars)

/-- The entry of a field, whose name is not dotted. -/
def ofField (field : String × Literal) : Statement := .entry ⟨field.1, []⟩ field.2

/-- What a statement does to the document in front of it. -/
def perform (document : Document) : Statement → Except ReadError Document
  | .table name => orMalformed (document.declareTable? name.path)
  | .item name => orMalformed (document.declareItem? name.path)
  | .entry name literal => do
      let value ← literal.value
      orMalformed (document.insert? name.path value)

end Statement

/-- Blanks inside a line. -/
structure Blanks where
  /-- The blanks. -/
  chars : List Char
  blank : ∀ c ∈ chars, isSpace c = true

/-- A comment, without the mark in front. -/
structure Comment where
  /-- What is said. -/
  chars : List Char
  allowed : ∀ c ∈ chars, isForbidden false c = false

/-- A line to be written. -/
structure Line where
  /-- The blanks in front. -/
  indent : Blanks
  /-- The statement, if there is one. -/
  statement : Option Statement
  /-- The blanks behind the statement. -/
  gap : Blanks
  /-- The comment, if there is one. -/
  comment : Option Comment

namespace Line

/-- The text of the statement, if there is one. -/
def statementChars (line : Line) : List Char := line.statement.elim [] Statement.chars

/-- The text of the comment, if there is one. -/
def commentChars (line : Line) : List Char :=
  line.comment.elim [] fun comment => '#' :: comment.chars

/-- The text of a line, without a line break. -/
def chars (line : Line) : List Char :=
  line.indent.chars ++ (line.statementChars ++ (line.gap.chars ++ line.commentChars))

/-- What a line does to the document in front of it. -/
def perform (document : Document) (line : Line) : Except ReadError Document :=
  line.statement.elim (.ok document) (·.perform document)

/-- A line that consists of a statement alone. -/
def ofStatement (statement : Statement) : Line := ⟨⟨[], nofun⟩, some statement, ⟨[], nofun⟩, none⟩

end Line

/-- The text behind a line: each of the lines that follow, with a line break in front. -/
def laterLines (lines : List Line) : List Char := lines.flatMap fun line => '\n' :: line.chars

/-- The text of a document with at least one line. -/
def documentText (line : Line) (lines : List Line) : String :=
  String.ofList (line.chars ++ laterLines lines)

/-- The statements of lines, in order. -/
def statements (lines : List Line) : List Statement := lines.filterMap (·.statement)

/-- The entries that the statements of lines lead to. -/
def documentEntries (lines : List Line) : Except ReadError Entries :=
  ((statements lines).foldlM Statement.perform .empty).map (·.entries)

/-- The header of a table, followed by its fields. -/
def sectionStatements (name : String) (fields : List (String × Literal)) : List Statement :=
  .table ⟨name, []⟩ :: fields.map .ofField

/-- The headers of tables, each followed by the fields of its table. -/
def tableStatements (tables : List (String × List (String × Literal))) : List Statement :=
  tables.flatMap fun table => sectionStatements table.1 table.2

/-- What the fields of a table stand for, in order. -/
def fieldValues : List (String × Literal) → Except ReadError Entries
  | [] => .ok []
  | (field, literal) :: fields => do
      let value ← literal.value
      return (field, value) :: (← fieldValues fields)

/-- What tables stand for, in order. -/
def tableValues : List (String × List (String × Literal)) → Except ReadError Entries
  | [] => .ok []
  | (name, fields) :: tables => do
      let entries ← fieldValues fields
      return (name, .table entries) :: (← tableValues tables)

end Reckoner.Toml
