import Reckoner.Toml.Document
import Reckoner.Toml.Scalar

/-!
# Reading TOML

A document is a sequence of lines, each of which is empty, an entry, or the header of a table, and
may end in a comment.  A text that is no document is rejected as a whole, and so is a document with
an integer that has too many digits.

## Implementation notes

Every step of the readers below consumes at least one character, so the length of the input bounds
the number of steps; they recurse on that bound.
-/

namespace Reckoner.Toml

/-- The input behind its leading blanks. -/
def skipSpace (cs : List Char) : List Char := cs.dropWhile isSpace

/-- The input behind a comment at its front, which may hold no control characters but tabs. -/
def skipComment? : List Char → Option (List Char)
  | '#' :: rest =>
      if (rest.takeWhile (· != '\n')).any (isForbidden false) then none
      else some (rest.dropWhile (· != '\n'))
  | cs => some cs

/-- The input behind blanks, line breaks and comments. -/
def skipGaps? : (steps : Nat) → List Char → Option (List Char)
  | 0, _ => none
  | steps + 1, cs =>
      match cs.dropWhile isGap with
      | '#' :: rest => do skipGaps? steps (← skipComment? ('#' :: rest))
      | rest => some rest

/-- The parts of a dotted name behind the reversed parts read before, and the blanks behind it. -/
def readName? : (steps : Nat) → (found : Path) → List Char → Option (Path × List Char)
  | 0, _, _ => none
  | steps + 1, found, cs => do
      let (part, rest) ← readKeyPart cs
      match skipSpace rest with
      | '.' :: rest => readName? steps (part :: found) (skipSpace rest)
      | rest => some ((part :: found).reverse, rest)

/-- The entries of a table in braces with one more entry, and the names of its values in brackets or
braces, to which nothing may be added. -/
def insertInline? (found : Entries) (closed : List Path) (name : Path) (value : Data) :
    Option (Entries × List Path) := do
  let stem ← name.getLast?
  if closed.any fun start => start.isPrefixOf name then none
  else
    let found ← Entries.change? false name.dropLast (Entries.insertNew? stem value) found
    return (found, if Document.isContainer value then name :: closed else closed)

mutual

/-- A value of any kind. -/
def readValue : (steps : Nat) → List Char → Except ReadError (Data × List Char)
  | 0, _ => .error .malformed
  | steps + 1, cs =>
      if startsWith [Text.doubleQuote] cs || startsWith [Text.singleQuote] cs then
        (orMalformed (readText? cs)).map fun (text, rest) => (.text text, rest)
      else if startsWith ['t', 'r', 'u', 'e'] cs then .ok (.boolean true, cs.drop 4)
      else if startsWith ['f', 'a', 'l', 's', 'e'] cs then .ok (.boolean false, cs.drop 5)
      else
        match cs with
        | '[' :: rest => do
            let rest ← orMalformed (skipGaps? steps rest)
            if startsWith [']'] rest then return (.list [], rest.drop 1)
            else readItems steps [] rest
        | '{' :: rest =>
            let rest := skipSpace rest
            if startsWith ['}'] rest then .ok (.table [], rest.drop 1)
            else readEntries steps [] [] rest
        | cs => readScalar cs

/-- The items of a list behind the reversed items read before, up to the closing bracket. -/
def readItems : (steps : Nat) → (found : List Data) → List Char →
    Except ReadError (Data × List Char)
  | 0, _, _ => .error .malformed
  | steps + 1, found, cs => do
      let (item, rest) ← readValue steps cs
      match ← orMalformed (skipGaps? steps rest) with
      | ']' :: rest => return (.list (item :: found).reverse, rest)
      | ',' :: rest =>
          let rest ← orMalformed (skipGaps? steps rest)
          if startsWith [']'] rest then return (.list (item :: found).reverse, rest.drop 1)
          else readItems steps (item :: found) rest
      | _ => .error .malformed

/-- The entries of a table in braces behind those read before, up to the closing brace.  Nothing may
be added to values in brackets or braces, whose names are `closed`. -/
def readEntries : (steps : Nat) → (found : Entries) → (closed : List Path) → List Char →
    Except ReadError (Data × List Char)
  | 0, _, _, _ => .error .malformed
  | steps + 1, found, closed, cs => do
      let (name, value, rest) ← readEntry steps cs
      let (found, closed) ← orMalformed (insertInline? found closed name value)
      match skipSpace rest with
      | '}' :: rest => return (.table found, rest)
      | ',' :: rest => readEntries steps found closed (skipSpace rest)
      | _ => .error .malformed

/-- A dotted name, an equals sign and a value. -/
def readEntry : (steps : Nat) → List Char → Except ReadError (Path × Data × List Char)
  | 0, _ => .error .malformed
  | steps + 1, cs => do
      let (name, rest) ← orMalformed (readName? steps [] cs)
      match rest with
      | '=' :: rest =>
          let (value, rest) ← readValue steps (skipSpace rest)
          return (name, value, rest)
      | _ => .error .malformed

end

/-- The header of a table or of an item of a list of tables. -/
def readHeader? (steps : Nat) (document : Document) : List Char → Option (Document × List Char)
  | '[' :: '[' :: rest => do
      let (path, rest) ← readName? steps [] (skipSpace rest)
      let document ← document.declareItem? path
      if startsWith [']', ']'] rest then some (document, rest.drop 2) else none
  | '[' :: rest => do
      let (path, rest) ← readName? steps [] (skipSpace rest)
      let document ← document.declareTable? path
      if startsWith [']'] rest then some (document, rest.drop 1) else none
  | _ => none

/-- The statement at the front of a line, if there is one. -/
def readStatement (steps : Nat) (document : Document) (cs : List Char) :
    Except ReadError (Document × List Char) :=
  match cs with
  | [] => .ok (document, [])
  | c :: _ =>
      if c = '\n' ∨ c = '#' then .ok (document, cs)
      else if c = '[' then orMalformed (readHeader? steps document cs)
      else do
        let (name, value, rest) ← readEntry steps cs
        let document ← orMalformed (document.insert? name value)
        return (document, rest)

/-- The document after all lines of the input. -/
def readLines : (steps : Nat) → Document → List Char → Except ReadError Document
  | 0, _, _ => .error .malformed
  | steps + 1, document, cs => do
      let (document, rest) ← readStatement steps document (skipSpace cs)
      match ← orMalformed (skipComment? (skipSpace rest)) with
      | [] => return document
      | '\n' :: rest => readLines steps document rest
      | _ => .error .malformed

/-- The input with each carriage return in front of a line feed removed. -/
def joinBreaks : List Char → List Char
  | [] => []
  | c :: rest =>
      if c = '\r' ∧ startsWith ['\n'] rest then joinBreaks rest else c :: joinBreaks rest

/-- The entries of a document. -/
def read (source : String) : Except ReadError Entries :=
  let cs := joinBreaks source.toList
  (readLines (2 * cs.length + 8) .empty cs).map (·.entries)

end Reckoner.Toml
