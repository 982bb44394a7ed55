import Reckoner.Answer
import Reckoner.Proofs.Decimal.Digits
import Reckoner.Proofs.Text.Line

/-!
# The characters of written numbers

However a number is laid out, its text consists of digits, a point, signs, the mark of an exponent,
and the letters of the names for what is no finite number.  All of them are shown characters.
-/

namespace Reckoner

open Text (IsLine IsShown isLine_of_isShown isShown_of_all isShown_of_isDigit)

/-- The character occurs in written numbers. -/
def IsNumberChar (c : Char) : Prop :=
  ('0' ≤ c ∧ c ≤ '9') ∨ c ∈ ['.', '+', '-', 'e', 'i', 'n', 'f', 'a']

instance : DecidablePred IsNumberChar := fun _ => inferInstanceAs (Decidable (_ ∨ _))

theorem IsNumberChar.isShown {c : Char} (h : IsNumberChar c) : IsShown c := by
  rcases h with digit | other
  · exact isShown_of_isDigit digit
  · have letters : ∀ d ∈ ['.', '+', '-', 'e', 'i', 'n', 'f', 'a'], IsShown d := isShown_of_all rfl
    exact letters c other

theorem isNumberChar_of_all {cs : List Char} (h : cs.all (IsNumberChar ·) = true) :
    ∀ c ∈ cs, IsNumberChar c := by
  simpa using h

/-- A text like that of a number is a line. -/
theorem isLine_of_isNumberChar {s : String} (h : ∀ c ∈ s.toList, IsNumberChar c) : IsLine s :=
  isLine_of_isShown fun c mem => (h c mem).isShown

namespace Layout

variable {digits : List Char} {layout : Layout}

theorem isNumberChar_decimalDigits (n : Nat) : ∀ c ∈ decimalDigits n, IsNumberChar c :=
  fun c mem => .inl (isDigit_decimalDigits n c mem)

theorem isNumberChar_zeros (k : Nat) : ∀ c ∈ List.replicate k '0', IsNumberChar c := by
  intro c mem
  cases List.eq_of_mem_replicate mem
  decide

theorem isNumberChar_positional {marked : Bool} {leading : Int} (h : ∀ c ∈ digits, IsNumberChar c) :
    ∀ c ∈ positional marked digits leading, IsNumberChar c := by
  have mark : ∀ c ∈ if marked then ['.', '0'] else [], IsNumberChar c := by
    cases marked <;> exact isNumberChar_of_all rfl
  unfold positional
  dsimp only
  split
  · simp only [List.forall_mem_cons, List.forall_mem_append]
    exact ⟨by decide, by decide, isNumberChar_zeros _, h⟩
  · split
    · simp only [List.forall_mem_append]
      exact ⟨⟨h, isNumberChar_zeros _⟩, mark⟩
    · simp only [List.forall_mem_cons, List.forall_mem_append]
      exact ⟨fun c mem => h c (List.mem_of_mem_take mem), by decide,
        fun c mem => h c (List.mem_of_mem_drop mem)⟩

theorem isNumberChar_exponentMark (exponent : Int) :
    ∀ c ∈ exponentMark exponent, IsNumberChar c := by
  have sign : IsNumberChar (if exponent < 0 then '-' else '+') := by
    split <;> decide
  unfold exponentMark
  simp only [List.forall_mem_cons, List.forall_mem_append]
  exact ⟨by decide, sign, isNumberChar_zeros _, isNumberChar_decimalDigits _⟩

theorem isNumberChar_scientific {leading : Int} (h : ∀ c ∈ digits, IsNumberChar c) :
    ∀ c ∈ scientific digits leading, IsNumberChar c := by
  have mark := isNumberChar_exponentMark leading
  match digits with
  | [] => exact nofun
  | [digit] => exact List.forall_mem_cons.2 ⟨h digit List.mem_cons_self, mark⟩
  | digit :: other :: others =>
      obtain ⟨first, later⟩ := List.forall_mem_cons.1 h
      simp only [scientific, List.forall_mem_cons, List.forall_mem_append]
      exact ⟨⟨first, by decide, List.forall_mem_cons.1 later⟩, mark⟩

theorem isNumberChar_decimalText (decimal : Decimal) :
    ∀ c ∈ layout.decimalText decimal, IsNumberChar c := by
  unfold decimalText
  dsimp only
  split
  · exact isNumberChar_positional (isNumberChar_decimalDigits _)
  · exact isNumberChar_scientific (isNumberChar_decimalDigits _)

end Layout

theorem isNumberChar_integerText (n : Int) : ∀ c ∈ (integerText n).toList, IsNumberChar c := by
  have sign : ∀ c ∈ if n < 0 then ['-'] else [], IsNumberChar c := by
    split <;> exact isNumberChar_of_all rfl
  rw [integerText, String.toList_ofList, List.forall_mem_append]
  exact ⟨sign, Layout.isNumberChar_decimalDigits _⟩

namespace Binary64

theorem isNumberChar_textWith (layout : Layout) (decimal : Magnitude → Decimal) (x : Binary64) :
    ∀ c ∈ (textWith layout decimal x).toList, IsNumberChar c := by
  have sign (negative : Bool) : ∀ c ∈ Layout.sign negative, IsNumberChar c := by
    cases negative <;> exact isNumberChar_of_all rfl
  cases x with
  | nan =>
      rw [textWith]
      exact isNumberChar_of_all (by decide)
  | infinite negative =>
      rw [textWith, String.toList_ofList, List.forall_mem_append]
      exact ⟨sign negative, isNumberChar_of_all rfl⟩
  | finite negative magnitude =>
      rw [textWith, String.toList_ofList, List.forall_mem_append]
      exact ⟨sign negative, Layout.isNumberChar_decimalText _⟩

theorem isNumberChar_plainText (x : Binary64) : ∀ c ∈ x.plainText.toList, IsNumberChar c := by
  unfold plainText
  split
  · split
    · exact isNumberChar_integerText _
    · exact isNumberChar_textWith _ _ x
  · exact isNumberChar_textWith _ _ x

end Binary64

namespace Answer

theorem isShown_numberText (x : Binary64) : ∀ c ∈ (numberText x).toList, IsShown c := by
  unfold numberText
  split
  · rename_i negative
    cases negative <;> exact isShown_of_all rfl
  · exact fun c mem => (x.isNumberChar_plainText c mem).isShown

/-- An answer consists of shown characters. -/
theorem isShown_text {precision : Option Int} {value : Binary64} {shown : String}
    (written : text precision value = .ok shown) : ∀ c ∈ shown.toList, IsShown c := by
  unfold text at written
  split at written
  · cases written
  · rename_i precision
    cases counted : places precision with
    | error cause =>
        rw [counted] at written
        cases written
    | ok n =>
        rw [counted] at written
        cases written
        exact isShown_numberText _
  · cases written
    exact isShown_numberText _

end Answer

end Reckoner
