import Mathlib.Data.List.Basic
import Reckoner.Text.JsonString

/-!
# Texts on one line

A quoted text has no line break whatever the text is, since a line break is escaped.  A text of
shown characters, which need no escape in JSON, has none either, and its JSON string is the text
between quotes.  A text with line breaks has one line more than breaks.

## Implementation notes

That a text is a line is simplified to the absence of line breaks among its characters, for which
the lemmas about the parts of messages are stated.
-/

namespace Reckoner.Text

variable {s : String} {c quote : Char}

/-- The text has no line break. -/
def IsLine (text : String) : Prop := '\n' ∉ text.toList

@[simp] theorem isLine_iff : IsLine s ↔ '\n' ∉ s.toList := Iff.rfl

/-- The lines of a text, which line breaks separate. -/
def lines (text : String) : List (List Char) := text.toList.splitOn '\n'

section Lines

variable {cs ds : List Char}

theorem splitOn_append_cons : (cs ++ c :: ds).splitOn c = cs.splitOn c ++ ds.splitOn c :=
  List.splitOnP_append_cons cs ds (beq_self_eq_true c)

theorem splitOn_of_not_mem (h : c ∉ cs) : cs.splitOn c = [cs] :=
  List.splitOnP_eq_singleton fun _ mem => beq_eq_false_iff_ne.2 fun same => h (same ▸ mem)

theorem length_splitOn : (cs.splitOn c).length = cs.count c + 1 := by
  induction cs with
  | nil => rfl
  | cons d cs ih =>
      rw [List.splitOn] at ih ⊢
      rw [List.splitOnP_cons_eq_if_modifyHead, List.count_cons]
      split <;> simp_all

end Lines

section Quoted

theorem lineBreak_not_mem_hexDigits (width n : Nat) : '\n' ∉ hexDigits width n := by
  have digit : ∀ d < 16, '\n' ≠ Nat.digitChar d := by decide
  induction width generalizing n with
  | zero => exact List.not_mem_nil
  | succ width ih =>
      rw [hexDigits, List.mem_append, List.mem_singleton]
      exact not_or_intro (ih _) (digit _ (Nat.mod_lt n (by decide)))

theorem lineBreak_not_mem_quotedChar (other : '\n' ≠ quote) : '\n' ∉ quotedChar quote c := by
  have hex := lineBreak_not_mem_hexDigits
  unfold quotedChar
  split
  · rename_i escaped
    rintro (_ | ⟨_, _ | ⟨_, _ | _⟩⟩)
    rcases escaped with same | same
    · exact other same
    · cases same
  split
  · decide
  split
  · decide
  split
  · decide
  split
  · rename_i notBreak _ _ _
    simpa using fun same => notBreak same.symm
  split
  · simpa [backslash] using hex 2 c.toNat
  split
  · simpa [backslash] using hex 4 c.toNat
  · simpa [backslash] using hex 8 c.toNat

/-- A quoted text is one line. -/
@[simp] theorem lineBreak_not_mem_quoted (text : String) : '\n' ∉ (quoted text).toList := by
  have other : '\n' ≠ quoteFor text.toList := by
    unfold quoteFor
    split <;> decide
  rw [quoted, String.toList_ofList]
  simp only [List.mem_cons, List.mem_append, List.mem_flatMap, List.not_mem_nil, or_false, not_or]
  refine ⟨other, ?_, other⟩
  rintro ⟨c, -, mem⟩
  exact lineBreak_not_mem_quotedChar other mem

end Quoted

section Shown

/-- The character is shown as it is in JSON. -/
def IsShown (c : Char) : Prop := (32 ≤ c.toNat ∧ c.toNat ≤ 126) ∧ c ≠ doubleQuote ∧ c ≠ backslash

instance : DecidablePred IsShown := fun _ => inferInstanceAs (Decidable (_ ∧ _))

theorem isShown_of_all {cs : List Char} (h : cs.all (IsShown ·) = true) : ∀ c ∈ cs, IsShown c := by
  simpa using h

theorem isShown_of_isDigit (h : '0' ≤ c ∧ c ≤ '9') : IsShown c := by
  have least : 48 ≤ c.toNat := h.1
  have greatest : c.toNat ≤ 57 := h.2
  refine ⟨by omega, ?_, ?_⟩
  · rintro rfl
    exact absurd least (by decide)
  · rintro rfl
    exact absurd greatest (by decide)

theorem jsonChar_of_isShown (h : IsShown c) : jsonChar c = [c] := by
  obtain ⟨range, quote, slash⟩ := h
  have other (d : Char) (control : d.toNat < 32) : c ≠ d := by
    rintro rfl
    omega
  rw [jsonChar, if_neg (not_or_intro quote slash), if_neg (other '\n' (by decide)),
    if_neg (other '\r' (by decide)), if_neg (other '\t' (by decide)), if_neg (by omega),
    if_neg (by omega), if_pos range]

theorem isLine_of_isShown (h : ∀ c ∈ s.toList, IsShown c) : IsLine s := by
  intro mem
  exact absurd (h _ mem).1.1 (by decide)

/-- Shown characters stand between the quotes of a JSON string as they are. -/
theorem jsonString_of_isShown (h : ∀ c ∈ s.toList, IsShown c) :
    jsonString s = "\"" ++ s ++ "\"" := by
  have same : s.toList.flatMap jsonChar = s.toList :=
    calc s.toList.flatMap jsonChar
      _ = s.toList.flatMap ([·]) := List.flatMap_congr fun c mem => jsonChar_of_isShown (h c mem)
      _ = s.toList := List.flatMap_singleton' _
  apply String.toList_inj.1
  rw [jsonString, same]
  simp [doubleQuote]

end Shown

end Reckoner.Text
