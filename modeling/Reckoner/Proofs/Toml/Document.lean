import Reckoner.Proofs.Toml.Value

/-!
# Documents are read as they are written

A document that is written line by line is read as the entries that its statements lead to, one
after the other, and where a statement fails, the reader fails for the same reason.  The entries
under a single header make up the table of that name.

## Implementation notes

Nothing that is written holds a carriage return, so that the reader, which joins line breaks first,
sees the text as it is.
-/

namespace Reckoner.Toml

open Reckoner.Text (backslash doubleQuote)

open PlainNumeral (signChars fractionChars exponentChars)

variable {c : Char} {cs rest : List Char} {steps : Nat} {document : Document}

section Returns

theorem joinBreaks_of_not_mem (without : '\r' ∉ cs) : joinBreaks cs = cs := by
  induction cs with
  | nil => rfl
  | cons c cs ih =>
      rw [List.mem_cons, not_or] at without
      rw [joinBreaks, if_neg fun both => without.1 both.1.symm, ih without.2]

theorem Digits.return_not_mem (digits : Digits) : '\r' ∉ digits.chars := fun mem =>
  absurd (digits.digits '\r' mem) (by decide)

theorem PlainNumeral.return_not_mem (numeral : PlainNumeral) : '\r' ∉ numeral.chars := by
  have sign (negative : Bool) : '\r' ∉ signChars negative := by cases negative <;> decide
  have fraction : '\r' ∉ fractionChars numeral.fraction := by
    cases numeral.fraction with
    | none => exact List.not_mem_nil
    | some digits => simp [fractionChars, digits.return_not_mem]
  have exponent : '\r' ∉ exponentChars numeral.exponent := by
    cases numeral.exponent with
    | none => exact List.not_mem_nil
    | some exponent => simp [exponentChars, sign, exponent.2.return_not_mem]
  simp [chars, sign, fraction, exponent, numeral.whole.return_not_mem]

theorem return_ne_digitChar (n : Nat) : '\r' ≠ Nat.digitChar (n % 16) := by
  have small : n % 16 < 16 := Nat.mod_lt n (by decide)
  generalize n % 16 = digit at small
  revert digit
  decide

theorem return_not_mem_escapedChars : '\r' ∉ escapedChars c := by
  unfold escapedChars
  split
  · rename_i special
    rcases special with rfl | rfl <;> decide
  · split
    · simp [Text.hexDigits, return_ne_digitChar, show '\r' ≠ backslash by decide]
    · rename_i allowed
      rw [List.mem_singleton]
      rintro rfl
      exact allowed rfl

theorem return_not_mem_quotedChars (content : String) : '\r' ∉ quotedChars content := by
  have each : '\r' ∉ content.toList.flatMap escapedChars := by
    simp [return_not_mem_escapedChars]
  simp [quotedChars, each, show '\r' ≠ doubleQuote by decide]

theorem return_not_mem_keyChars (part : String) : '\r' ∉ keyChars part := by
  unfold keyChars
  split
  · rename_i bare
    exact fun mem => absurd (List.all_eq_true.1 bare.2 '\r' mem) (by decide)
  · exact return_not_mem_quotedChars part

theorem Name.return_not_mem (name : Name) : '\r' ∉ name.chars := by
  simp [chars, return_not_mem_keyChars]

namespace Literal

theorem return_not_mem_laterItems {items : List Literal}
    (each : ∀ item ∈ items, '\r' ∉ item.chars) : '\r' ∉ laterItems items := by
  induction items with
  | nil => simp [laterItems]
  | cons item items ih =>
      obtain ⟨first, others⟩ := List.forall_mem_cons.1 each
      simp [laterItems, first, ih others]

theorem return_not_mem_laterEntries {entries : List (Name × Literal)}
    (each : ∀ entry ∈ entries, '\r' ∉ entry.2.chars) : '\r' ∉ laterEntries entries := by
  induction entries with
  | nil => simp [laterEntries]
  | cons entry entries ih =>
      obtain ⟨first, others⟩ := List.forall_mem_cons.1 each
      simp [laterEntries, first, ih others, entry.1.return_not_mem]

theorem return_not_mem_list {items : List Literal} (each : ∀ item ∈ items, '\r' ∉ item.chars) :
    '\r' ∉ (list items).chars := by
  cases items with
  | nil => simp [chars]
  | cons item items =>
      obtain ⟨first, others⟩ := List.forall_mem_cons.1 each
      simp [chars, first, return_not_mem_laterItems others]

theorem return_not_mem_table {entries : List (Name × Literal)}
    (each : ∀ entry ∈ entries, '\r' ∉ entry.2.chars) : '\r' ∉ (table entries).chars := by
  cases entries with
  | nil => simp [chars]
  | cons entry entries =>
      obtain ⟨first, others⟩ := List.forall_mem_cons.1 each
      simp [chars, first, entry.1.return_not_mem, return_not_mem_laterEntries others]

theorem return_not_mem : (literal : Literal) → '\r' ∉ literal.chars
  | .boolean value => by cases value <;> simp [chars]
  | .number numeral => by
      rw [chars]
      exact numeral.return_not_mem
  | .infinity negative => by cases negative <;> simp [chars, PlainNumeral.signChars]
  | .nan => by simp [chars]
  | .text content => by
      rw [chars]
      exact return_not_mem_quotedChars content
  | .list items => return_not_mem_list fun item _ => return_not_mem item
  | .table entries => return_not_mem_table fun (_, literal) mem =>
      have _ := sizeOf_lt_of_mem mem
      return_not_mem literal

end Literal

theorem Statement.return_not_mem (statement : Statement) : '\r' ∉ statement.chars := by
  cases statement with
  | table name => simp [chars, name.return_not_mem]
  | item name => simp [chars, name.return_not_mem]
  | entry name literal => simp [chars, name.return_not_mem, literal.return_not_mem]

theorem Line.return_not_mem (line : Line) : '\r' ∉ line.chars := by
  have blanks (blanks : Blanks) : '\r' ∉ blanks.chars := fun mem =>
    absurd (blanks.blank '\r' mem) (by decide)
  have statement : '\r' ∉ line.statementChars := by
    unfold statementChars
    cases line.statement with
    | none => exact List.not_mem_nil
    | some statement => exact statement.return_not_mem
  have comment : '\r' ∉ line.commentChars := by
    unfold commentChars
    cases line.comment with
    | none => exact List.not_mem_nil
    | some comment =>
        have said : '\r' ∉ comment.chars := fun mem =>
          absurd (comment.allowed '\r' mem) (by decide)
        simp [said]
  simp [chars, blanks, statement, comment]

end Returns

section Statements

variable {name : Name}

theorem endsName_bracket : EndsName (']' :: rest) where
  key := by
    rintro _ ⟨⟩
    decide
  point := by
    rintro _ ⟨⟩
    decide

theorem readHeader?_table (enough : name.chars.length ≤ steps) :
    readHeader? steps document ('[' :: (name.chars ++ ']' :: rest)) =
      (document.declareTable? name.path).map (·, rest) := by
  have first := skipSpace_of_begins (name.begins_chars (']' :: rest))
  unfold readHeader?
  split
  · rename_i same
    obtain ⟨c, cs, chars, -, noBracket⟩ := name.exists_chars_eq_cons
    rw [chars] at same
    exact absurd (List.cons.inj (List.cons.inj same).2).1 noBracket
  · rename_i same
    cases same
    rw [first, name.readName?_chars enough endsName_bracket]
    show (document.declareTable? name.path).bind _ = _
    cases document.declareTable? name.path <;> rfl
  · rename_i other
    exact absurd rfl (other _)

theorem readHeader?_item (enough : name.chars.length ≤ steps) :
    readHeader? steps document ('[' :: '[' :: (name.chars ++ ']' :: ']' :: rest)) =
      (document.declareItem? name.path).map (·, rest) := by
  have first := skipSpace_of_begins (name.begins_chars (']' :: ']' :: rest))
  rw [readHeader?, first, name.readName?_chars enough endsName_bracket]
  show (document.declareItem? name.path).bind _ = _
  cases document.declareItem? name.path <;> rfl

theorem Statement.begins_chars (statement : Statement) (rest : List Char) :
    ∀ c ∈ (statement.chars ++ rest).head?, isEnd c = false := by
  cases statement with
  | table name =>
      rintro _ ⟨⟩
      decide
  | item name =>
      rintro _ ⟨⟩
      decide
  | entry name literal =>
      rw [chars, List.append_assoc]
      exact name.begins_chars _

theorem readStatement_bracket : readStatement steps document ('[' :: cs) =
    orMalformed (readHeader? steps document ('[' :: cs)) := rfl

/-- What starts with a name is read as an entry. -/
theorem readStatement_name (name : Name) (behind : List Char) :
    readStatement steps document (name.chars ++ behind) =
      readEntry steps (name.chars ++ behind) >>= fun (path, value, rest) =>
        (orMalformed (document.insert? path value)).map (·, rest) := by
  obtain ⟨c, cs, same, other, noBracket⟩ := name.exists_chars_eq_cons
  have noBreak : ¬(c = '\n' ∨ c = '#') := by
    rintro (rfl | rfl) <;> cases other
  rw [same]
  show (if c = '\n' ∨ c = '#' then _ else if c = '[' then _ else _) = _
  rw [if_neg noBreak, if_neg noBracket]
  cases readEntry steps (c :: cs ++ behind) with
  | error cause => rfl
  | ok found =>
      show (orMalformed (document.insert? found.1 found.2.1)).bind _ =
        (orMalformed (document.insert? found.1 found.2.1)).map _
      cases document.insert? found.1 found.2.1 <;> rfl

/-- A statement is read as what it does to the document. -/
theorem Statement.readStatement_chars (statement : Statement)
    (enough : statement.chars.length ≤ steps) (ends : Ends rest) :
    readStatement steps document (statement.chars ++ rest) =
      (statement.perform document).map (·, rest) := by
  cases statement with
  | table name =>
      rw [chars, List.length_cons, List.length_append] at enough
      rw [chars, List.cons_append, List.append_assoc, List.singleton_append, readStatement_bracket,
        readHeader?_table (by omega), perform]
      cases document.declareTable? name.path <;> rfl
  | item name =>
      rw [chars, List.length_cons, List.length_cons, List.length_append] at enough
      rw [chars, List.cons_append, List.cons_append, List.append_assoc, List.cons_append,
        List.singleton_append, readStatement_bracket, readHeader?_item (by omega), perform]
      cases document.declareItem? name.path <;> rfl
  | entry name literal =>
      rw [chars, List.length_append, List.length_cons, List.length_cons, List.length_cons] at enough
      obtain ⟨steps, rfl⟩ : ∃ k, steps = k + 1 := ⟨steps - 1, by omega⟩
      have entry := readEntry_of_value (literal.begins_chars rest) name (by omega)
        (literal.reads steps rest (by omega) ends)
      have text : chars (.entry name literal) ++ rest =
          name.chars ++ ' ' :: '=' :: ' ' :: (literal.chars ++ rest) := by
        rw [chars, List.append_assoc]
        rfl
      rw [text, readStatement_name, entry, perform]
      cases literal.value <;> rfl

end Statements

section Lines

variable {line : Line} {lines : List Line}

/-- What ends a line: nothing, or a line break. -/
def EndsLine (rest : List Char) : Prop := ∀ c ∈ rest.head?, c = '\n'

namespace Line

theorem head_commentChars (ends : EndsLine rest) :
    ∀ c ∈ (line.commentChars ++ rest).head?, c = '#' ∨ c = '\n' := by
  unfold commentChars
  cases line.comment with
  | none => exact fun c mem => .inr (ends c mem)
  | some comment =>
      rintro _ ⟨⟩
      exact .inl rfl

theorem skipSpace_append (blanks : Blanks) (cs : List Char) :
    skipSpace (blanks.chars ++ cs) = skipSpace cs :=
  List.dropWhile_append_of_pos blanks.blank

theorem skipSpace_commentChars (ends : EndsLine rest) :
    skipSpace (line.commentChars ++ rest) = line.commentChars ++ rest :=
  skipSpace_of_head fun c mem => by
    rcases head_commentChars ends c mem with rfl | rfl <;> rfl

/-- A comment is skipped up to the end of its line. -/
theorem skipComment?_commentChars (ends : EndsLine rest) :
    skipComment? (line.commentChars ++ rest) = some rest := by
  unfold commentChars
  cases line.comment with
  | none =>
      cases rest with
      | nil => rfl
      | cons c rest =>
          cases ends c rfl
          rfl
  | some comment =>
      have within : ∀ c ∈ comment.chars, (c != '\n') = true := by
        intro c mem
        rw [bne_iff_ne]
        rintro rfl
        exact absurd (comment.allowed '\n' mem) (by decide)
      have behind : rest.takeWhile (· != '\n') = [] ∧ rest.dropWhile (· != '\n') = rest := by
        cases rest with
        | nil => exact ⟨rfl, rfl⟩
        | cons c rest =>
            cases ends c rfl
            exact ⟨rfl, rfl⟩
      have allowed : comment.chars.any (isForbidden false) = false :=
        List.any_eq_false.2 fun c mem => by rw [comment.allowed c mem]; exact nofun
      show skipComment? ('#' :: (comment.chars ++ rest)) = some rest
      rw [skipComment?, List.takeWhile_append_of_pos within, List.dropWhile_append_of_pos within,
        behind.1, behind.2, List.append_nil, allowed]
      rfl

theorem ends_behind (line : Line) (ends : EndsLine rest) :
    Ends (line.gap.chars ++ (line.commentChars ++ rest)) := by
  cases blanks : line.gap.chars with
  | nil =>
      intro c mem
      rcases head_commentChars ends c mem with rfl | rfl <;> decide
  | cons c cs =>
      have blank := line.gap.blank c (blanks ▸ List.mem_cons_self)
      exact .cons (by rw [isEnd, isGap, blank]; rfl)

/-- The statement of a line is read, and behind it there is a comment at most. -/
theorem exists_readStatement (line : Line) (document : Document)
    (enough : line.chars.length ≤ steps) (ends : EndsLine rest) : ∃ behind,
      readStatement steps document (skipSpace (line.chars ++ rest)) =
        (line.perform document).map (·, behind) ∧ skipComment? (skipSpace behind) = some rest := by
  have comment := line.skipComment?_commentChars ends
  rw [chars, List.append_assoc, List.append_assoc, List.append_assoc, skipSpace_append, perform,
    statementChars]
  rw [chars, List.length_append, List.length_append, statementChars] at enough
  cases present : line.statement with
  | none =>
      refine ⟨line.commentChars ++ rest, ?_, by rw [skipSpace_commentChars ends, comment]⟩
      show readStatement steps document (skipSpace (line.gap.chars ++ _)) = _
      rw [skipSpace_append, skipSpace_commentChars ends]
      have first := line.head_commentChars ends
      generalize line.commentChars ++ rest = behind at first
      cases behind with
      | nil => rfl
      | cons c cs => exact if_pos (first c rfl).symm
  | some statement =>
      rw [present] at enough
      refine ⟨line.gap.chars ++ (line.commentChars ++ rest), ?_, by
        rw [skipSpace_append, skipSpace_commentChars ends, comment]⟩
      show readStatement steps document (skipSpace (statement.chars ++ _)) = _
      rw [skipSpace_of_begins (statement.begins_chars _)]
      have short : statement.chars.length ≤ steps := by
        change _ + (statement.chars.length + _) ≤ steps at enough
        omega
      exact statement.readStatement_chars short (line.ends_behind ends)

end Line

theorem readLines_line (enough : line.chars.length ≤ steps) (ends : EndsLine rest) :
    readLines (steps + 1) document (line.chars ++ rest) =
      line.perform document >>= fun document =>
        if rest.isEmpty then .ok document else readLines steps document rest.tail := by
  obtain ⟨behind, statement, comment⟩ := line.exists_readStatement document enough ends
  rw [readLines, statement]
  cases line.perform document with
  | error cause => rfl
  | ok document =>
      show (orMalformed (skipComment? (skipSpace behind))).bind _ = _
      rw [comment]
      cases rest with
      | nil => rfl
      | cons c rest =>
          cases ends c rfl
          rfl

theorem foldlM_statements_cons : (statements (line :: lines)).foldlM Statement.perform document =
    line.perform document >>= (statements lines).foldlM Statement.perform := by
  rw [statements, List.filterMap_cons, Line.perform]
  cases line.statement with
  | none => rfl
  | some statement => exact List.foldlM_cons

/-- The lines of a document do to it, one after the other, what their statements do. -/
theorem readLines_chars (enough : (line.chars ++ laterLines lines).length < steps) :
    readLines steps document (line.chars ++ laterLines lines) =
      (statements (line :: lines)).foldlM Statement.perform document := by
  rw [List.length_append] at enough
  induction lines generalizing line steps document with
  | nil =>
      obtain ⟨steps, rfl⟩ := Nat.exists_eq_add_one.2 (Nat.zero_lt_of_lt enough)
      have read : readLines (steps + 1) document (line.chars ++ []) = _ :=
        readLines_line (by omega) nofun
      rw [foldlM_statements_cons]
      exact read
  | cons next lines ih =>
      obtain ⟨steps, rfl⟩ := Nat.exists_eq_add_one.2 (Nat.zero_lt_of_lt enough)
      have ends : EndsLine ('\n' :: (next.chars ++ laterLines lines)) := by
        rintro _ ⟨⟩
        rfl
      have text : laterLines (next :: lines) = '\n' :: (next.chars ++ laterLines lines) := rfl
      rw [text, List.length_cons, List.length_append] at enough
      rw [text, readLines_line (by omega) ends, foldlM_statements_cons]
      refine congrArg (line.perform document >>= ·) (funext fun document => ?_)
      exact ih (by omega)

/-- A document is read as the entries that its statements lead to. -/
theorem read_documentText (line : Line) (lines : List Line) :
    read (documentText line lines) = documentEntries (line :: lines) := by
  have without : '\r' ∉ line.chars ++ laterLines lines := by
    simp [laterLines, Line.return_not_mem]
  rw [read, documentText, String.toList_ofList]
  rw [joinBreaks_of_not_mem without, readLines_chars (by omega), documentEntries]

end Lines

section Tables

variable {name field : String} {found front entries : Entries} {value : Data}
  {fields : List (String × Literal)} {tables : List (String × List (String × Literal))}

/-- A name that does not occur twice is not found in front of where it stands. -/
theorem lookup_eq_none_of_distinct {later : List String}
    (distinct : (found.map (·.1) ++ name :: later).Nodup) : found.lookup name = none := by
  rw [List.lookup_eq_none_iff]
  intro entry mem
  rw [bne_iff_ne]
  exact ((List.nodup_append.1 distinct).2.2 entry.1 (List.mem_map_of_mem mem) name
    List.mem_cons_self).symm

theorem replace_append {old : Data} (absent : front.lookup name = none) :
    Entries.replace name value (front ++ [(name, old)]) = front ++ [(name, value)] := by
  induction front with
  | nil => exact if_pos rfl
  | cons entry front ih =>
      obtain ⟨unequal, absent⟩ := List.forall_mem_cons.1 (List.lookup_eq_none_iff.1 absent)
      rw [List.cons_append, Entries.replace, if_neg (bne_iff_ne.1 unequal).symm,
        ih (List.lookup_eq_none_iff.2 absent)]
      rfl

/-- The document consists of tables with plain names, and is ready for another header. -/
structure Holds (entries : Entries) (document : Document) : Prop where
  /-- The tables are all there is. -/
  root : document.entries = entries
  /-- No other table is declared. -/
  declared : ∀ path ∈ document.declared, ∃ entry ∈ entries, path = [entry.1]
  /-- No table is waiting to be declared. -/
  pending : document.pending = []
  /-- Only fields of the tables are finished. -/
  closed : ∀ path ∈ document.closed, path.length = 2

namespace Holds

theorem empty : Holds [] .empty := ⟨rfl, nofun, rfl, nofun⟩

variable (holds : Holds entries document)

include holds

theorem isClosed_eq_false (name : String) : document.isClosed [name] = false := by
  refine List.any_eq_false.2 fun path mem inside => ?_
  have short := (List.isPrefixOf_iff_prefix.1 inside).length_le
  rw [holds.closed path mem, List.length_singleton] at short
  omega

theorem contains_declared_eq_false (new : entries.lookup name = none) :
    document.declared.contains [name] = false := by
  refine Bool.eq_false_iff.2 fun taken => ?_
  obtain ⟨entry, mem, same⟩ := holds.declared [name] (List.contains_iff_mem.1 taken)
  exact bne_iff_ne.1 (List.lookup_eq_none_iff.1 new entry mem) (List.singleton_inj.1 same)

/-- A table with a new name may be declared. -/
theorem exists_declareTable? (new : entries.lookup name = none) :
    ∃ next, document.declareTable? [name] = some next ∧
      Holds (entries ++ [(name, .table [])]) next ∧ next.header = [name] := by
  have declared : document.settled.declared = document.declared := by
    rw [Document.settled, holds.pending]
    exact List.append_nil _
  have added : Entries.change? true [name] some document.entries =
      some (entries ++ [(name, .table [])]) := by
    rw [holds.root, Entries.change?, new]
    rfl
  refine ⟨{ document.settled with
    entries := entries ++ [(name, .table [])]
    header := [name]
    declared := [name] :: document.settled.declared }, ?_, ⟨rfl, ?_, rfl, holds.closed⟩, rfl⟩
  · show (if document.settled.declared.contains [name] || document.isClosed [name] then none else
      (Entries.change? true [name] some document.entries).bind _) = _
    rw [declared, holds.contains_declared_eq_false new, holds.isClosed_eq_false, added]
    rfl
  · rw [declared]
    intro path mem
    rcases List.mem_cons.1 mem with rfl | mem
    · exact ⟨_, List.mem_append_right _ (List.mem_singleton_self _), rfl⟩
    · obtain ⟨entry, found, same⟩ := holds.declared path mem
      exact ⟨entry, List.mem_append_left _ found, same⟩

end Holds

/-- A field with a new name is added to the last table. -/
theorem Holds.exists_insert? (holds : Holds (front ++ [(name, .table found)]) document)
    (header : document.header = [name]) (new : front.lookup name = none)
    (free : found.lookup field = none) (value : Data) :
    ∃ next, document.insert? [field] value = some next ∧
      Holds (front ++ [(name, .table (found ++ [(field, value)]))]) next ∧
      next.header = [name] := by
  have there : (front ++ [(name, Data.table found)]).lookup name = some (.table found) := by
    rw [List.lookup_append, new, List.lookup_cons_self]
    rfl
  have added : Entries.change? true [name] (Entries.insertNew? field value) document.entries =
      some (front ++ [(name, .table (found ++ [(field, value)]))]) := by
    rw [holds.root, Entries.change?, there]
    simp [Entries.change?, Entries.insertNew?, free, replace_append new]
  refine ⟨{ document with
    entries := front ++ [(name, .table (found ++ [(field, value)]))]
    pending := document.pending ++ []
    closed := if Document.isContainer value then [name, field] :: document.closed
      else document.closed }, ?_, ⟨rfl, ?_, ?_, ?_⟩, header⟩
  · rw [Document.insert?, header]
    show (if document.isClosed [name] = true then none else
      (Entries.change? true [name] (Entries.insertNew? field value) document.entries).bind _) = _
    rw [holds.isClosed_eq_false, added]
    rfl
  · intro path mem
    obtain ⟨entry, found, same⟩ := holds.declared path mem
    rcases List.mem_append.1 found with found | last
    · exact ⟨entry, List.mem_append_left _ found, same⟩
    · cases List.mem_singleton.1 last
      exact ⟨_, List.mem_append_right _ (List.mem_singleton_self _), same⟩
  · exact (List.append_nil _).trans holds.pending
  · dsimp only
    split
    · exact List.forall_mem_cons.2 ⟨rfl, holds.closed⟩
    · exact holds.closed

/-- A run that fails for the expected reason, or leaves a document with the expected tables. -/
inductive Leads : Except ReadError Document → Except ReadError Entries → Prop
  | error (cause : ReadError) : Leads (.error cause) (.error cause)
  | ok {entries : Entries} {document : Document} : Holds entries document →
      Leads (.ok document) (.ok entries)

theorem Leads.map_entries {outcome : Except ReadError Document}
    {expected : Except ReadError Entries} (leads : Leads outcome expected) :
    outcome.map (·.entries) = expected := by
  cases leads with
  | error cause => rfl
  | ok holds => exact congrArg Except.ok holds.root

/-- Fields with distinct new names are added to the last table one after the other. -/
theorem leads_fields (holds : Holds (front ++ [(name, .table found)]) document)
    (header : document.header = [name]) (new : front.lookup name = none)
    (distinct : (found.map (·.1) ++ fields.map (·.1)).Nodup) :
    Leads ((fields.map .ofField).foldlM Statement.perform document)
      ((fieldValues fields).map fun entries => front ++ [(name, .table (found ++ entries))]) := by
  induction fields generalizing found document with
  | nil =>
      show Leads (.ok document) (.ok (front ++ [(name, .table (found ++ []))]))
      rw [List.append_nil]
      exact .ok holds
  | cons first fields ih =>
      obtain ⟨field, literal⟩ := first
      rw [List.map_cons, List.foldlM_cons, fieldValues, Statement.ofField, Statement.perform]
      cases literal.value with
      | error cause => exact .error cause
      | ok value =>
          obtain ⟨next, inserted, holds, header⟩ :=
            holds.exists_insert? header new (lookup_eq_none_of_distinct distinct) value
          have rest := ih holds header (by simpa using distinct)
          show Leads ((orMalformed (document.insert? [field] value)).bind _) _
          rw [inserted]
          cases later : fieldValues fields with
          | error cause =>
              rw [later] at rest
              exact rest
          | ok entries =>
              rw [later] at rest
              show Leads _ (.ok (front ++ [(name, .table (found ++ (field, value) :: entries))]))
              rw [List.append_cons found]
              exact rest

/-- Tables with distinct new names are added one after the other. -/
theorem leads_tables (holds : Holds front document)
    (distinct : (front.map (·.1) ++ tables.map (·.1)).Nodup)
    (fields : ∀ table ∈ tables, (table.2.map (·.1)).Nodup) :
    Leads ((tableStatements tables).foldlM Statement.perform document)
      ((tableValues tables).map (front ++ ·)) := by
  induction tables generalizing front document with
  | nil =>
      show Leads (.ok document) (.ok (front ++ []))
      rw [List.append_nil]
      exact .ok holds
  | cons table tables ih =>
      obtain ⟨name, inner⟩ := table
      obtain ⟨first, fields⟩ := List.forall_mem_cons.1 fields
      have new : front.lookup name = none := lookup_eq_none_of_distinct distinct
      obtain ⟨next, declared, holds, header⟩ := holds.exists_declareTable? new
      have gathered := leads_fields holds header new (by simpa using first)
      have text : tableStatements ((name, inner) :: tables) =
          .table ⟨name, []⟩ :: (inner.map .ofField ++ tableStatements tables) := rfl
      rw [text, List.foldlM_cons, Statement.perform, tableValues]
      show Leads ((orMalformed (document.declareTable? [name])).bind _) _
      rw [declared]
      show Leads
        ((inner.map Statement.ofField ++ tableStatements tables).foldlM Statement.perform next) _
      rw [List.foldlM_append]
      generalize (inner.map Statement.ofField).foldlM Statement.perform next = run at gathered ⊢
      cases values : fieldValues inner with
      | error cause =>
          rw [values] at gathered
          cases gathered
          exact .error cause
      | ok entries =>
          rw [values] at gathered
          cases gathered with
          | ok holds =>
              have rest := ih holds (by simpa using distinct) fields
              cases later : tableValues tables with
              | error cause =>
                  rw [later] at rest
                  exact rest
              | ok others =>
                  rw [later] at rest
                  show Leads _ (.ok (front ++ (name, .table entries) :: others))
                  rw [List.append_cons front]
                  exact rest

/-- A document of tables with distinct names, each with fields of distinct names, is read as these
tables, with what the fields stand for. -/
theorem read_tables {line : Line} {lines : List Line}
    (written : statements (line :: lines) = tableStatements tables)
    (distinct : (tables.map (·.1)).Nodup)
    (fields : ∀ table ∈ tables, (table.2.map (·.1)).Nodup) :
    read (documentText line lines) = tableValues tables := by
  rw [read_documentText, documentEntries, written, (leads_tables .empty distinct fields).map_entries]
  cases tableValues tables <;> rfl

end Tables

end Reckoner.Toml
