/-!
# Boxed tables

Tables for the terminal: a title centred over a box with a heavy head.  Cells have a blank on each
side.  A table that is too wide narrows its widest column, whose longer cells end in an ellipsis.
-/

namespace Reckoner

/-- On which side of its column a cell stands. -/
inductive Alignment where
  | left
  | right
deriving DecidableEq

/-- A column of a table. -/
structure Column where
  /-- The text in the head. -/
  header : String
  /-- Where the cells stand. -/
  alignment : Alignment

/-- A table of texts. -/
structure Table where
  /-- The text above the box. -/
  title : String
  /-- The columns from left to right. -/
  columns : List Column
  /-- The rows, each with one cell for every column. -/
  rows : List (List String)

namespace Table

/-- The number of characters in a line of the terminal. -/
def lineWidth : Nat := 80

/-- Blanks in a row. -/
def blanks (n : Nat) : String := String.ofList (List.replicate n ' ')

/-- A text cut to a width, with an ellipsis in place of what is missing. -/
def truncate (width : Nat) (text : String) : String :=
  if text.length ≤ width then text
  else String.ofList (text.toList.take (width - 1) ++ ['…'])

/-- A text in a field of the given width. -/
def pad (alignment : Alignment) (width : Nat) (text : String) : String :=
  let text := truncate width text
  let fill := blanks (width - text.length)
  match alignment with
  | .left => text ++ fill
  | .right => fill ++ text

/-- The width of the widest cell of each column. -/
def naturalWidths (table : Table) : List Nat :=
  table.rows.foldl (fun widths row => List.zipWith (fun width cell => max width cell.length) widths row)
    (table.columns.map (·.header.length))

/-- The width of a box whose columns have the given widths. -/
def boxWidth (widths : List Nat) : Nat := widths.foldr (fun width total => width + 3 + total) 1

/-- Takes what exceeds the line from the first column of the given width. -/
def narrow (widest excess : Nat) : List Nat → List Nat
  | [] => []
  | width :: widths =>
      if width = widest then (width - excess) :: widths else width :: narrow widest excess widths

/-- The widths of the columns, so that the box fits the line. -/
def widths (table : Table) : List Nat :=
  let natural := table.naturalWidths
  let excess := boxWidth natural - lineWidth
  if excess = 0 then natural else narrow (natural.foldl max 0) excess natural

/-- A horizontal line of the box. -/
def rule (left line crossing right : Char) (widths : List Nat) : String :=
  let segments := widths.map fun width => String.ofList (List.replicate (width + 2) line)
  left.toString ++ crossing.toString.intercalate segments ++ right.toString

/-- A line of cells. -/
def row (bar : Char) (fields : List String) : String :=
  bar.toString ++ String.join (fields.map fun field => " " ++ field ++ " " ++ bar.toString)

/-- The cells of a line, padded to the widths of their columns. -/
def fields (columns : List Column) (widths : List Nat) (cells : List String) : List String :=
  (columns.zip (widths.zip cells)).map fun (column, width, cell) =>
    pad column.alignment width cell

/-- A text centred in a line of the given width. -/
def centred (width : Nat) (text : String) : String :=
  let excess := width - text.length
  blanks (excess / 2) ++ text ++ blanks (excess - excess / 2)

/-- The lines of a table, each ended by a line break. -/
def render (table : Table) : String :=
  let widths := table.widths
  let cells := fields table.columns widths
  let lines :=
    [centred (boxWidth widths) table.title,
      rule '┏' '━' '┳' '┓' widths,
      row '┃' (cells (table.columns.map (·.header))),
      rule '┡' '━' '╇' '┩' widths] ++
    table.rows.map (fun texts => row '│' (cells texts)) ++
    [rule '└' '─' '┴' '┘' widths]
  String.join (lines.map (· ++ "\n"))

end Table

end Reckoner
