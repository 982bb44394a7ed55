import Reckoner.Proofs.Position
import Reckoner.Proofs.Text.Line

/-!
# What a marker points at

A marker for a text that is not parsed shows the text and, on the last line, a mark in the column of
the offset at which parsing stops.  If the text is a line, then the mark stands below the character
at this offset.  If the text has line breaks, then the marker has as many lines more, and the column
of its mark counts the characters of all lines.
-/

namespace Reckoner.Marker

open Text (IsLine isLayout lines)
open Token

/-- Two lines show the source and a mark, which stands in the column that the character at the
offset has in the line above it. -/
def Marks (source : List Char) (offset : Nat) (shown : List (List Char)) : Prop :=
  ∃ indent mark, shown = [indent ++ source, mark ++ ['^']] ∧ mark.length = indent.length + offset

variable {source : String} {column : Int}

theorem toList_text : (text source column).toList =
    (margin ++ source.toList) ++
      '\n' :: (margin ++ List.replicate (clamp source.toList column) ' ' ++ ['^']) := by
  rw [text, String.toList_ofList]

/-- The mark is on a line of its own, behind those of the source. -/
theorem lines_text : lines (text source column) =
    (margin ++ source.toList).splitOn '\n' ++
      [margin ++ List.replicate (clamp source.toList column) ' ' ++ ['^']] := by
  have last : '\n' ∉ margin ++ List.replicate (clamp source.toList column) ' ' ++ ['^'] := by
    simp [margin]
  rw [lines, toList_text, Text.splitOn_append_cons, Text.splitOn_of_not_mem last]

theorem length_lines_text :
    (lines (text source column)).length = source.toList.count '\n' + 2 := by
  rw [lines_text, List.length_append, Text.length_splitOn]
  simp [margin]

/-- A source that is a line is marked at the offset, and any other source is not marked. -/
theorem marks_lines_text_iff :
    Marks source.toList (clamp source.toList column) (lines (text source column)) ↔
      IsLine source := by
  constructor
  · rintro ⟨indent, mark, shown, -⟩
    have length : (lines (text source column)).length = 2 := congrArg List.length shown
    rw [length_lines_text, Nat.add_eq_right] at length
    exact List.count_eq_zero.1 length
  · intro line
    refine ⟨margin, margin ++ List.replicate (clamp source.toList column) ' ', ?_, by simp⟩
    have single : '\n' ∉ margin ++ source.toList := by simpa [margin] using line
    rw [lines_text, Text.splitOn_of_not_mem single]
    rfl

/-- A question mark is not expected, behind layout of any sort. -/
theorem parse_question_mark {c : Char} (layout : isLayout c = true) :
    Expr.parse 64 (String.ofList ['1', c, '?']) =
      .error (.failure (.lexical (.unexpectedCharacter '?' 2))) := by
  have numeral : IsNumeral ['1'] :=
    .inl ⟨List.cons_ne_nil _ _, List.forall_mem_singleton.2 (by decide)⟩
  have reached := (Reaches.start.lexeme (.number numeral) (by simp)).layout layout
  have halts : Halts 2 [] '?' [] (.unexpectedCharacter '?' 2) :=
    .character (by decide) (by decide) (by decide) (by decide)
  have stopped : scan (String.ofList ['1', c, '?']) = .error (.unexpectedCharacter '?' 2) := by
    rw [scan, String.toList_ofList]
    exact (reached.scanFrom_eq (by simp)).trans halts.scanFrom_eq
  rw [Expr.parse, stopped]

/-- If a text is not parsed because of something at a position, then the position is an offset in
the text or its end.  The marker for it shows the lines of the text and, on one more line, a mark in
the column of this offset; that is below the character at this offset exactly if the text is a
line. -/
theorem text_of_parse (limit : Int) (source : String) (cause : Failure) (position : Int)
    (failed : Expr.parse limit source = .error (.failure cause))
    (pinned : cause.position? = some position) :
    ∃ offset : Nat, position = offset ∧ offset ≤ source.length ∧
      (lines (text source position)).length = source.toList.count '\n' + 2 ∧
      lines (text source position) = (margin ++ source.toList).splitOn '\n' ++
        [margin ++ List.replicate offset ' ' ++ ['^']] ∧
      (Marks source.toList offset (lines (text source position)) ↔ IsLine source) := by
  have place := (Failure.placed_of_parse failed).clamp position pinned
  have inside : clamp source.toList position ≤ source.length := by
    rw [← String.length_toList]
    exact Nat.min_le_right _ _
  exact ⟨_, place.symm, inside, length_lines_text, lines_text, marks_lines_text_iff⟩

/-- A tab is one column wide, so that the mark for a question mark behind it is in the fifth
column. -/
theorem text_of_parse_behind_tab :
    Expr.parse 64 "1\t?" = .error (.failure (.lexical (.unexpectedCharacter '?' 2))) ∧
      Marks ['1', '\t', '?'] 2 (lines (text "1\t?" 2)) := by
  have tab : isLayout '\t' = true := rfl
  have failed := parse_question_mark tab
  obtain ⟨offset, same, -, -, -, marks⟩ := text_of_parse 64 "1\t?" _ 2 failed rfl
  cases same
  exact ⟨failed, marks.2 (by simp)⟩

/-- A line break in front of a question mark makes three lines, and the question mark stands in the
first column of the second. -/
theorem text_of_parse_behind_line_break :
    Expr.parse 64 "1\n?" = .error (.failure (.lexical (.unexpectedCharacter '?' 2))) ∧
      text "1\n?" 2 = "  1\n?\n    ^" ∧
      ¬Marks ['1', '\n', '?'] 2 (lines (text "1\n?" 2)) := by
  have lineBreak : isLayout '\n' = true := rfl
  have failed := parse_question_mark lineBreak
  refine ⟨failed, by decide, fun marks => ?_⟩
  have line : IsLine "1\n?" := (@marks_lines_text_iff "1\n?" 2).1 marks
  simp at line

end Reckoner.Marker
