import Reckoner.Proofs.Toml.Text

/-!
# Values are read as they are written

A value in front of something that ends it is read as what it stands for, and if it stands for
nothing, its reader fails for the same reason.

## Implementation notes

The induction is on the written value.  The steps that a reader may take bound the length of what is
written, because every reader but one takes a character before it calls another one.
-/

namespace Reckoner.Toml

open Decimal (isAsciiDigit)
open Reckoner.Text (doubleQuote singleQuote)

variable {c : Char} {cs rest : List Char} {steps : Nat}

section Starts

/-- The characters that a number may start with. -/
def startsScalar (c : Char) : Bool := isAsciiDigit c || c == '-' || c == 'i' || c == 'n'

theorem skipGaps?_of_head (other : ∀ c ∈ cs.head?, isGap c = false ∧ c ≠ '#') :
    skipGaps? (steps + 1) cs = some cs := by
  cases cs with
  | nil => rfl
  | cons c cs =>
      obtain ⟨solid, noComment⟩ := other c rfl
      rw [skipGaps?, List.dropWhile_cons_of_neg (Bool.eq_false_iff.1 solid)]
      split
      · rename_i first
        exact absurd (List.cons.inj first).1 noComment
      · rfl

/-- What starts like a number is read as a scalar. -/
theorem readValue_of_scalar (scalar : startsScalar c = true) :
    readValue (steps + 1) (c :: cs) = readScalar (c :: cs) := by
  have other {d : Char} (strange : startsScalar d = false) : c ≠ d := by
    rintro rfl
    cases scalar.symm.trans strange
  have fails {d : Char} {start : List Char} (strange : startsScalar d = false) :
      startsWith (d :: start) (c :: cs) = false :=
    startsWith_of_head fun e mem => Option.some.inj mem ▸ other strange
  rw [readValue, fails (by decide), fails (by decide), fails (by decide), fails (by decide)]
  · rfl
  · exact fun rest first => other rfl (List.cons.inj first).1
  · exact fun rest first => other rfl (List.cons.inj first).1

/-- A name starts with a character that ends no value. -/
theorem Name.exists_chars_eq_cons (name : Name) :
    ∃ c cs, name.chars = c :: cs ∧ isEnd c = false ∧ c ≠ '[' := by
  obtain ⟨c, cs, same, key | rfl⟩ := exists_keyChars_eq_cons name.first
  · refine ⟨c, _, by rw [chars, same, List.cons_append], Bool.eq_false_iff.2 fun last => ?_, ?_⟩
    · rcases eq_of_isEnd last with rfl | rfl | rfl | rfl | rfl | rfl | rfl <;> cases key
    · rintro rfl
      cases key
  · exact ⟨_, _, by rw [chars, same, List.cons_append], by decide, by decide⟩

theorem Name.begins_chars (name : Name) (rest : List Char) :
    ∀ c ∈ (name.chars ++ rest).head?, isEnd c = false := by
  obtain ⟨c, cs, same, other, -⟩ := name.exists_chars_eq_cons
  rw [same]
  rintro _ ⟨⟩
  exact other

theorem PlainNumeral.exists_chars_eq_cons (numeral : PlainNumeral) :
    ∃ c cs, numeral.chars = c :: cs ∧ startsScalar c = true := by
  obtain ⟨c, cs, same, digit⟩ := numeral.whole.exists_eq_cons
  rw [chars, same]
  cases numeral.negative with
  | true => exact ⟨_, _, rfl, rfl⟩
  | false => exact ⟨_, _, rfl, by rw [startsScalar, digit]; rfl⟩

theorem isEnd_of_startsScalar (scalar : startsScalar c = true) : isEnd c = false := by
  refine Bool.eq_false_iff.2 fun last => ?_
  rcases eq_of_isEnd last with rfl | rfl | rfl | rfl | rfl | rfl | rfl <;> cases scalar

/-- A value starts with a character that ends no value. -/
theorem Literal.exists_chars_eq_cons (literal : Literal) :
    ∃ c cs, literal.chars = c :: cs ∧ isEnd c = false := by
  cases literal with
  | boolean value => cases value <;> exact ⟨_, _, rfl, by decide⟩
  | number numeral =>
      obtain ⟨c, cs, same, scalar⟩ := numeral.exists_chars_eq_cons
      exact ⟨c, cs, same, isEnd_of_startsScalar scalar⟩
  | infinity negative => cases negative <;> exact ⟨_, _, rfl, by decide⟩
  | nan => exact ⟨_, _, rfl, by decide⟩
  | text content => exact ⟨_, _, rfl, by decide⟩
  | list items => cases items <;> exact ⟨_, _, rfl, by decide⟩
  | table entries => cases entries <;> exact ⟨_, _, rfl, by decide⟩

end Starts

section Equations

variable {found : List Data} {entries : Entries} {closed : List Path} {data : Data}

theorem Ends.cons (last : isEnd c = true) : Ends (c :: rest) := by
  rintro _ ⟨⟩
  exact last

theorem not_isGap_of_not_isEnd (other : isEnd c = false) : isGap c = false ∧ c ≠ '#' ∧ c ≠ ']' := by
  simp only [isEnd, Bool.or_eq_false_iff, beq_eq_false_iff_ne] at other
  exact ⟨other.1.1.1.1, other.1.1.1.2, other.1.2⟩

variable (begins : ∀ c ∈ cs.head?, isEnd c = false)

include begins in
theorem skipGaps?_of_begins : skipGaps? (steps + 1) cs = some cs :=
  skipGaps?_of_head fun c mem =>
    ⟨(not_isGap_of_not_isEnd (begins c mem)).1, (not_isGap_of_not_isEnd (begins c mem)).2.1⟩

include begins in
theorem not_startsWith_bracket : startsWith [']'] cs = false :=
  startsWith_of_head fun c mem => (not_isGap_of_not_isEnd (begins c mem)).2.2

include begins in
/-- Behind an opening bracket, items are read. -/
theorem readValue_bracket : readValue (steps + 2) ('[' :: cs) = readItems (steps + 1) [] cs := by
  rw [readValue]
  show (orMalformed (skipGaps? (steps + 1) cs)).bind _ = _
  rw [skipGaps?_of_begins begins]
  show (if startsWith [']'] cs = true then _ else _) = _
  rw [not_startsWith_bracket begins, if_neg Bool.false_ne_true]

variable {outcome : Except ReadError Data} {text : List Char}

theorem readItems_last (item : readValue (steps + 1) text = outcome.map (·, ']' :: rest)) :
    readItems (steps + 2) found text =
      outcome.map fun data => (.list (data :: found).reverse, rest) := by
  rw [readItems, item]
  cases outcome <;> rfl

include begins in
theorem readItems_next (item : readValue (steps + 1) text = outcome.map (·, ',' :: ' ' :: cs)) :
    readItems (steps + 2) found text = outcome >>= fun data =>
      readItems (steps + 1) (data :: found) cs := by
  rw [readItems, item]
  cases outcome with
  | error cause => rfl
  | ok data =>
      show (orMalformed (skipGaps? (steps + 1) cs)).bind _ = _
      rw [skipGaps?_of_begins begins]
      show (if startsWith [']'] cs = true then _ else _) = _
      rw [not_startsWith_bracket begins, if_neg Bool.false_ne_true]
      rfl

theorem isSpace_of_not_isEnd (other : isEnd c = false) : isSpace c = false :=
  (Bool.or_eq_false_iff.1 (not_isGap_of_not_isEnd other).1).1

include begins in
theorem skipSpace_of_begins : skipSpace cs = cs :=
  skipSpace_of_head fun c mem => isSpace_of_not_isEnd (begins c mem)

include begins in
/-- Behind an opening brace, entries are read. -/
theorem readValue_brace : readValue (steps + 1) ('{' :: cs) = readEntries steps [] [] cs := by
  rw [readValue]
  show (if startsWith ['}'] (skipSpace cs) = true then _ else _) = _
  have noBrace : startsWith ['}'] cs = false := startsWith_of_head fun c mem same => by
    have other := begins c mem
    rw [same] at other
    cases other
  rw [skipSpace_of_begins begins, noBrace, if_neg Bool.false_ne_true]

/-- What ends the name of an entry. -/
theorem endsName_equals : EndsName (' ' :: '=' :: cs) where
  key := by
    rintro _ ⟨⟩
    decide
  point := by
    rintro _ ⟨⟩
    decide

include begins in
/-- An entry is read as the path of its name and as what its value stands for. -/
theorem readEntry_of_value (name : Name) (enough : name.chars.length ≤ steps)
    (value : readValue steps cs = outcome.map (·, rest)) :
    readEntry (steps + 1) (name.chars ++ ' ' :: '=' :: ' ' :: cs) =
      outcome.map (name.path, ·, rest) := by
  rw [readEntry, name.readName?_chars enough endsName_equals]
  show (readValue steps (skipSpace cs)).bind _ = _
  rw [skipSpace_of_begins begins, value]
  cases outcome <;> rfl

variable {path : Path}

theorem readEntries_last {found : Entries}
    (entry : readEntry steps text = outcome.map (path, ·, '}' :: rest)) :
    readEntries (steps + 1) found closed text = outcome >>= fun data =>
      (orMalformed (insertInline? found closed path data)).map fun inner =>
        (.table inner.1, rest) := by
  rw [readEntries, entry]
  cases outcome with
  | error cause => rfl
  | ok data =>
      show (orMalformed (insertInline? found closed path data)).bind _ =
        (orMalformed (insertInline? found closed path data)).map _
      cases insertInline? found closed path data <;> rfl

include begins in
theorem readEntries_next {found : Entries}
    (entry : readEntry steps text = outcome.map (path, ·, ',' :: ' ' :: cs)) :
    readEntries (steps + 1) found closed text = outcome >>= fun data =>
      orMalformed (insertInline? found closed path data) >>= fun inner =>
        readEntries steps inner.1 inner.2 cs := by
  rw [readEntries, entry]
  cases outcome with
  | error cause => rfl
  | ok data =>
      show (orMalformed (insertInline? found closed path data)).bind _ =
        (orMalformed (insertInline? found closed path data)).bind _
      cases insertInline? found closed path data with
      | none => rfl
      | some inner =>
          show readEntries steps inner.1 inner.2 (skipSpace cs) = _
          rw [skipSpace_of_begins begins]
          rfl

end Equations

section Values

namespace Literal

/-- The value is read as what it stands for, whatever follows it. -/
def Reads (literal : Literal) : Prop :=
  ∀ steps rest, literal.chars.length ≤ steps → Ends rest →
    readValue steps (literal.chars ++ rest) = literal.value.map (·, rest)

variable {found : List Data} {item : Literal} {items : List Literal}

theorem begins_chars (literal : Literal) (rest : List Char) :
    ∀ c ∈ (literal.chars ++ rest).head?, isEnd c = false := by
  obtain ⟨c, cs, same, other⟩ := literal.exists_chars_eq_cons
  rw [same]
  rintro _ ⟨⟩
  exact other

theorem length_chars_pos (literal : Literal) : 0 < literal.chars.length := by
  obtain ⟨c, cs, same, -⟩ := literal.exists_chars_eq_cons
  rw [same]
  exact Nat.succ_pos _

/-- The items of a list are read as what they stand for, behind those that were found. -/
theorem readItems_chars (reads : ∀ literal ∈ item :: items, literal.Reads)
    (enough : (item.chars ++ laterItems items).length ≤ steps) :
    readItems steps found (item.chars ++ (laterItems items ++ rest)) =
      (values (item :: items)).map fun others => (.list (found.reverse ++ others), rest) := by
  induction items generalizing item steps found with
  | nil =>
      have length := item.length_chars_pos
      rw [laterItems, List.length_append, List.length_singleton] at enough
      obtain ⟨steps, rfl⟩ : ∃ k, steps = k + 2 := ⟨steps - 2, by omega⟩
      have read := reads item List.mem_cons_self (steps + 1) (']' :: rest) (by omega) (.cons rfl)
      rw [laterItems, List.cons_append, List.nil_append, readItems_last read, values, values]
      cases item.value with
      | error cause => rfl
      | ok data => exact congrArg (fun items => Except.ok (Data.list items, rest)) List.reverse_cons
  | cons second items ih =>
      have length := item.length_chars_pos
      rw [laterItems, List.length_append, List.length_cons, List.length_cons] at enough
      obtain ⟨steps, rfl⟩ : ∃ k, steps = k + 2 := ⟨steps - 2, by omega⟩
      have read := reads item List.mem_cons_self (steps + 1)
        (',' :: ' ' :: (second.chars ++ (laterItems items ++ rest))) (by omega) (.cons rfl)
      have next (data : Data) : readItems (steps + 1) (data :: found) _ =
          (values (second :: items)).map _ :=
        ih (fun literal mem => reads literal (List.mem_cons_of_mem item mem)) (by omega)
      rw [laterItems, List.cons_append, List.cons_append, List.append_assoc,
        readItems_next (second.begins_chars _) read]
      simp only [next]
      rw [values.eq_2 item]
      cases item.value with
      | error cause => rfl
      | ok data =>
          cases values (second :: items) with
          | error cause => rfl
          | ok others =>
              show Except.ok (Data.list ((data :: found).reverse ++ others), rest) = _
              rw [List.reverse_cons, List.append_assoc]
              rfl

variable {name : Name} {literal : Literal} {inner : Entries} {closed : List Path}
  {entries : List (Name × Literal)}

/-- The entries of a table in braces are read as what they stand for, behind those that were
found. -/
theorem readEntries_chars (reads : ∀ entry ∈ (name, literal) :: entries, entry.2.Reads)
    (enough : name.chars.length + literal.chars.length + (laterEntries entries).length + 3 ≤
      steps) :
    readEntries steps inner closed
        (name.chars ++ ' ' :: '=' :: ' ' :: (literal.chars ++ (laterEntries entries ++ rest))) =
      (tableValue inner closed ((name, literal) :: entries)).map (.table ·, rest) := by
  induction entries generalizing name literal steps inner closed with
  | nil =>
      obtain ⟨steps, rfl⟩ : ∃ k, steps = k + 2 := ⟨steps - 2, by omega⟩
      have first : literal.Reads := reads (name, literal) List.mem_cons_self
      have entry := readEntry_of_value (literal.begins_chars ('}' :: rest)) name (by omega)
        (first steps ('}' :: rest) (by omega) (.cons rfl))
      rw [laterEntries, List.singleton_append, readEntries_last entry, tableValue.eq_2]
      cases literal.value with
      | error cause => rfl
      | ok data =>
          show (orMalformed (insertInline? inner closed name.path data)).map _ =
            ((orMalformed (insertInline? inner closed name.path data)).bind _).map _
          cases insertInline? inner closed name.path data with
          | none => rfl
          | some outcome => simp only [tableValue]; rfl
  | cons second entries ih =>
      obtain ⟨other, later⟩ := second
      rw [laterEntries, List.length_cons, List.length_cons, List.length_append, List.length_cons,
        List.length_cons, List.length_cons, List.length_append] at enough
      obtain ⟨steps, rfl⟩ : ∃ k, steps = k + 2 := ⟨steps - 2, by omega⟩
      have first : literal.Reads := reads (name, literal) List.mem_cons_self
      have entry (cs : List Char) := readEntry_of_value
        (literal.begins_chars (',' :: ' ' :: cs)) name (by omega)
        (first steps (',' :: ' ' :: cs) (by omega) (.cons rfl))
      have text : laterEntries ((other, later) :: entries) ++ rest = ',' :: ' ' :: (other.chars ++
          ' ' :: '=' :: ' ' :: (later.chars ++ (laterEntries entries ++ rest))) := by
        simp [laterEntries]
      have next (inner : Entries) (closed : List Path) : readEntries (steps + 1) inner closed _ =
          (tableValue inner closed ((other, later) :: entries)).map _ :=
        ih (fun entry mem => reads entry (List.mem_cons_of_mem _ mem)) (by omega)
      rw [text, readEntries_next (other.begins_chars _) (entry _), tableValue.eq_2]
      cases literal.value with
      | error cause => rfl
      | ok data =>
          show (orMalformed (insertInline? inner closed name.path data)).bind _ =
            ((orMalformed (insertInline? inner closed name.path data)).bind _).map _
          cases insertInline? inner closed name.path data with
          | none => rfl
          | some outcome => exact next outcome.1 outcome.2

theorem reads_of_succ (read : ∀ steps rest, literal.chars.length ≤ steps + 1 → Ends rest →
    readValue (steps + 1) (literal.chars ++ rest) = literal.value.map (·, rest)) :
    literal.Reads := by
  intro steps rest enough ends
  have positive := Nat.lt_of_lt_of_le literal.length_chars_pos enough
  obtain ⟨steps, rfl⟩ := Nat.exists_eq_add_one.2 positive
  exact read steps rest enough ends

theorem reads_boolean (value : Bool) : (boolean value).Reads :=
  reads_of_succ fun steps rest _ _ => by cases value <;> rfl

theorem reads_number (numeral : PlainNumeral) : (number numeral).Reads := by
  refine reads_of_succ fun steps rest _ ends => ?_
  obtain ⟨c, cs, same, scalar⟩ := numeral.exists_chars_eq_cons
  have read : readValue (steps + 1) (c :: (cs ++ rest)) = _ := readValue_of_scalar scalar
  rw [← List.cons_append, ← same, numeral.readScalar_append ends] at read
  exact read

theorem reads_infinity (negative : Bool) : (infinity negative).Reads := by
  refine reads_of_succ fun steps rest _ _ => ?_
  cases negative with
  | true => exact (readValue_of_scalar rfl).trans (readScalar_infinity true)
  | false => exact (readValue_of_scalar rfl).trans (readScalar_infinity false)

theorem reads_nan : nan.Reads :=
  reads_of_succ fun _ _ _ _ => (readValue_of_scalar rfl).trans readScalar_nan

theorem reads_text (content : String) : (text content).Reads := by
  refine reads_of_succ fun steps rest _ ends => ?_
  have noQuote : ∀ c ∈ rest.head?, c ≠ doubleQuote := by
    rintro c mem rfl
    exact absurd (ends _ mem) (by decide)
  show readValue (steps + 1) (quotedChars content ++ rest) = .ok (.text content, rest)
  rw [readValue, readText?_quotedChars noQuote, quotedChars_append]
  · rfl
  · exact nofun
  · exact nofun

theorem reads_list (reads : ∀ literal ∈ items, literal.Reads) : (list items).Reads := by
  refine reads_of_succ fun steps rest enough _ => ?_
  cases items with
  | nil =>
      obtain ⟨steps, rfl⟩ : ∃ k, steps = k + 1 := ⟨steps - 1, by
        rw [chars, List.length_cons, List.length_singleton] at enough
        omega⟩
      rfl
  | cons item items =>
      have length := item.length_chars_pos
      rw [chars, List.length_cons] at enough
      obtain ⟨steps, rfl⟩ : ∃ k, steps = k + 1 := ⟨steps - 1, by
        rw [List.length_append] at enough
        omega⟩
      have text : (list (item :: items)).chars ++ rest =
          '[' :: (item.chars ++ (laterItems items ++ rest)) := by
        simp [chars]
      rw [text, readValue_bracket (item.begins_chars _), readItems_chars reads (by omega), value]
      cases values (item :: items) <;> rfl

theorem reads_table (reads : ∀ entry ∈ entries, entry.2.Reads) : (table entries).Reads := by
  refine reads_of_succ fun steps rest enough _ => ?_
  cases entries with
  | nil => rfl
  | cons entry entries =>
      obtain ⟨name, inner⟩ := entry
      rw [chars, List.length_cons, List.length_append, List.length_cons, List.length_cons,
        List.length_cons, List.length_append] at enough
      have text : (table ((name, inner) :: entries)).chars ++ rest = '{' :: (name.chars ++
          ' ' :: '=' :: ' ' :: (inner.chars ++ (laterEntries entries ++ rest))) := by
        simp [chars]
      rw [text, readValue_brace (name.begins_chars _), readEntries_chars reads (by omega), value]
      cases tableValue [] [] ((name, inner) :: entries) <;> rfl

theorem sizeOf_lt_of_mem (mem : (name, literal) ∈ entries) : sizeOf literal < sizeOf entries := by
  have smaller := List.sizeOf_lt_of_mem mem
  rw [Prod.mk.sizeOf_spec] at smaller
  omega

/-- A value is read as what it stands for. -/
theorem reads : (literal : Literal) → literal.Reads
  | .boolean value => reads_boolean value
  | .number numeral => reads_number numeral
  | .infinity negative => reads_infinity negative
  | .nan => reads_nan
  | .text content => reads_text content
  | .list items => reads_list fun literal _ => reads literal
  | .table entries => reads_table fun (_, literal) mem =>
      have _ := sizeOf_lt_of_mem mem
      reads literal

end Literal

end Values

end Reckoner.Toml
