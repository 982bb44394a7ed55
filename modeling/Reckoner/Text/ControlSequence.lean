/-!
# Control sequences

The sequences by which a text steers a terminal: an escape character, an opening bracket, any number
of parameter characters, and a letter.  They are left out of what is not shown on a terminal.
-/

namespace Reckoner.Text

/-- The character that starts a control sequence. -/
def escapeChar : Char := '\x1b'

/-- Whether a character belongs to the parameters of a control sequence. -/
def isParameter (c : Char) : Bool := c == ';' || c == '?' || c.isDigit

/-- The number of characters of the control sequence at the front of a text; zero if there is
none. -/
def controlLength : List Char → Nat
  | c :: '[' :: rest =>
      if c = escapeChar ∧ (rest.dropWhile isParameter).head?.any Char.isAlpha then
        (rest.takeWhile isParameter).length + 3
      else 0
  | _ => 0

/-- A text without its control sequences and without its first `skipped` characters. -/
def withoutControlFrom : (skipped : Nat) → List Char → List Char
  | _, [] => []
  | skipped + 1, _ :: rest => withoutControlFrom skipped rest
  | 0, c :: rest =>
      match controlLength (c :: rest) with
      | 0 => c :: withoutControlFrom 0 rest
      | others + 1 => withoutControlFrom others rest

/-- A text without its control sequences. -/
def withoutControlSequences (text : String) : String :=
  String.ofList (withoutControlFrom 0 text.toList)

end Reckoner.Text
