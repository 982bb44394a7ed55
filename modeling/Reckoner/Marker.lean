/-!
# Error markers

Two lines that show an expression and, below it, a mark under one of its columns.
-/

namespace Reckoner.Marker

/-- What stands in front of the expression and of the mark. -/
def margin : List Char := [' ', ' ']

/-- The column of a source nearest to the given one; the place behind the last character counts. -/
def clamp (source : List Char) (column : Int) : Nat := min column.toNat source.length

/-- The expression, and the mark under the given column. -/
def text (source : String) (column : Int) : String :=
  String.ofList (margin ++ source.toList ++
    '\n' :: (margin ++ List.replicate (clamp source.toList column) ' ' ++ ['^']))

end Reckoner.Marker
