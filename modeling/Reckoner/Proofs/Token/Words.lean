import Reckoner.Proofs.Token.Spelling

/-!
# The words of a text

A text read as a sequence of words, without the offsets at which they stand.  Texts are put together
from texts: what stands behind a text leaves its words as they are, provided that it does not touch
the last of them.

## Implementation notes

`Spells` follows scanning, one lexeme or one character of layout at a time, so that a text is taken
apart at its front and put together from its end.  `Breaks` is its counterpart for texts that
contain a numeral with a letter behind it, as a number in scientific notation does.
-/

namespace Reckoner

open Text (isLayout isLetter)
open Token

/-- A token without its position: what it is, and its text. -/
abbrev Word := TokenKind × String

/-- The word of a token. -/
def Token.word (token : Token) : Word := (token.kind, token.text)

/-- The text consists of layout and of lexemes, none of which touches what follows it, and the
lexemes are the given words. -/
inductive Spells : List Char → List Word → Prop
  | nil : Spells [] []
  | layout {c cs words} : isLayout c = true → Spells cs words → Spells (c :: cs) words
  | lexeme {kind lexeme cs words} : IsLexeme kind lexeme → Detached kind cs → Spells cs words →
      Spells (lexeme ++ cs) ((kind, String.ofList lexeme) :: words)

/-- The text consists of layout and lexemes up to a numeral that a letter touches. -/
inductive Breaks : List Char → Prop
  | numeral {numeral c rest} : IsNumeral numeral → isNumeralDigit c = false → c ≠ '.' →
      isLetter c = true → Breaks (numeral ++ c :: rest)
  | layout {c cs} : isLayout c = true → Breaks cs → Breaks (c :: cs)
  | lexeme {kind lexeme cs} : IsLexeme kind lexeme → Detached kind cs → Breaks cs →
      Breaks (lexeme ++ cs)

section Detached

variable {kind : TokenKind} {c : Char} {cs ds rest : List Char}

theorem Token.Detached.nil : Detached kind [] := by
  rintro _ _ ⟨⟩

theorem Token.Detached.layout (h : isLayout c = true) : Detached kind (c :: rest) := by
  rintro _ _ ⟨⟩
  exact not_touches_of_isLayout h

theorem Token.Detached.symbol {symbol : TokenKind} (h : IsLexeme symbol [c])
    (single : symbol.isWord = false) : Detached kind (c :: rest) := by
  rintro _ _ ⟨⟩
  exact not_touches_of_ofSymbol? (ofSymbol?_eq_some_iff.2 ⟨h, single⟩)

/-- Only the first character behind a lexeme matters. -/
theorem Token.Detached.append (h : Detached kind cs) (h' : Detached kind ds) :
    Detached kind (cs ++ ds) := by
  cases cs with
  | nil => exact h'
  | cons c cs =>
      rintro _ _ ⟨⟩
      exact h c cs rfl

end Detached

namespace Spells

variable {kind : TokenKind} {c : Char} {cs ds lexeme : List Char} {us vs : List Word}
  {source : String} {tokens : List Token}

/-- A symbol in front of a text. -/
theorem symbol (h : IsLexeme kind [c]) (single : kind.isWord = false) (spelled : Spells cs us) :
    Spells (c :: cs) ((kind, String.ofList [c]) :: us) :=
  .lexeme h (.of_symbol single) spelled

theorem single (h : IsLexeme kind lexeme) : Spells lexeme [(kind, String.ofList lexeme)] := by
  simpa using Spells.lexeme h .nil .nil

/-- A text in front of one that touches nothing. -/
theorem append (h : Spells cs us) (apart : ∀ kind, Detached kind ds) (h' : Spells ds vs) :
    Spells (cs ++ ds) (us ++ vs) := by
  induction h with
  | nil => exact h'
  | layout isLayout _ ih => exact .layout isLayout ih
  | lexeme isLexeme detached _ ih =>
      rw [List.append_assoc]
      exact .lexeme isLexeme (detached.append (apart _)) ih

theorem gap {layout : List Char} (blank : ∀ c ∈ layout, isLayout c = true) (h : Spells cs us) :
    Spells (layout ++ cs) us := by
  induction layout with
  | nil => exact h
  | cons c others ih =>
      obtain ⟨first, later⟩ := List.forall_mem_cons.1 blank
      exact .layout first (ih later)

/-- A text that breaks, behind one that it does not touch, breaks the whole. -/
theorem breaks_append (h : Spells cs us) (apart : ∀ kind, Detached kind ds) (broken : Breaks ds) :
    Breaks (cs ++ ds) := by
  induction h with
  | nil => exact broken
  | layout isLayout _ ih => exact .layout isLayout ih
  | lexeme isLexeme detached _ ih =>
      rw [List.append_assoc]
      exact .lexeme isLexeme (detached.append (apart _)) ih

/-- The tokens of a text carry its words. -/
theorem scanFrom_eq (h : Spells cs us) (position : Nat) :
    ∃ front, front.map word = us ∧ (∀ token ∈ front, IsLexeme token.kind token.text.toList) ∧
      ∀ found, scanFrom position found cs =
        .ok (found.reverse ++ (front ++ [⟨.finish, "", (position + cs.length : Nat)⟩])) := by
  induction h generalizing position with
  | nil => exact ⟨[], rfl, List.forall_mem_nil _, fun found => by rw [scanFrom]; rfl⟩
  | @layout c cs _ isLayout _ ih =>
      obtain ⟨front, same, lexemes, scanned⟩ := ih (position + 1)
      refine ⟨front, same, lexemes, fun found => ?_⟩
      rw [scanFrom, if_pos isLayout, scanned, List.length_cons, Nat.add_right_comm]
      rfl
  | @lexeme kind lexeme cs _ isLexeme detached _ ih =>
      obtain ⟨front, same, lexemes, scanned⟩ := ih (position + lexeme.length)
      refine ⟨⟨kind, String.ofList lexeme, position⟩ :: front, by rw [List.map_cons, same]; rfl,
        List.forall_mem_cons.2 ⟨by simpa using isLexeme, lexemes⟩, fun found => ?_⟩
      rw [scanFrom_lexeme isLexeme detached, scanned, List.length_append, Nat.add_assoc]
      simp

/-- A text is scanned into tokens that carry its words. -/
theorem exists_scan (h : Spells source.toList us) :
    ∃ front, front.map word = us ∧ (∀ token ∈ front, token.kind ≠ .finish) ∧
      scan source = .ok (front ++ [⟨.finish, "", source.length⟩]) := by
  obtain ⟨front, same, lexemes, scanned⟩ := h.scanFrom_eq 0
  refine ⟨front, same, fun token mem => ne_finish_of_isLexeme (lexemes token mem), ?_⟩
  rw [scan, scanned, List.reverse_nil, List.nil_append, Nat.zero_add, String.length_toList]

theorem of_scanFrom {position : Nat} {found : List Token}
    (h : scanFrom position found cs = .ok tokens) :
    ∃ front, tokens = found.reverse ++
        (front ++ [⟨.finish, "", (position + cs.length : Nat)⟩]) ∧
      (∀ token ∈ front, IsLexeme token.kind token.text.toList) ∧ Spells cs (front.map word) := by
  fun_induction scanFrom position found cs with
  | case1 position found =>
      cases h
      exact ⟨[], rfl, List.forall_mem_nil _, .nil⟩
  | case2 position found c following layout ih =>
      obtain ⟨front, same, lexemes, spelled⟩ := ih h
      refine ⟨front, ?_, lexemes, .layout layout spelled⟩
      rw [same, List.length_cons, Nat.add_assoc, Nat.add_comm 1]
  | case3 => cases h
  | case4 position found c following _ lexeme read ih =>
      obtain ⟨front, same, lexemes, spelled⟩ := ih h
      obtain ⟨isLexeme, whole, detached⟩ := isLexeme_of_readLexeme read
      rw [← whole, List.length_append, ← Nat.add_assoc]
      refine ⟨⟨lexeme.kind, String.ofList lexeme.text, position⟩ :: front, by simp [same],
        List.forall_mem_cons.2 ⟨by simpa using isLexeme, lexemes⟩, ?_⟩
      exact .lexeme isLexeme detached spelled

/-- The tokens that a text is scanned into are its lexemes and the token of the end. -/
theorem of_scan (h : scan source = .ok tokens) :
    ∃ front, tokens = front ++ [⟨.finish, "", source.length⟩] ∧
      (∀ token ∈ front, IsLexeme token.kind token.text.toList) ∧
      Spells source.toList (front.map word) := by
  obtain ⟨front, same, lexemes, spelled⟩ := of_scanFrom h
  refine ⟨front, ?_, lexemes, spelled⟩
  rw [same, List.reverse_nil, List.nil_append, Nat.zero_add, String.length_toList]

end Spells

/-- The words of a text are lexemes. -/
theorem Spells.isLexeme {cs : List Char} {words : List Word} (h : Spells cs words) :
    ∀ w ∈ words, IsLexeme w.1 w.2.toList := by
  induction h with
  | nil => exact nofun
  | layout _ _ ih => exact ih
  | lexeme isLexeme _ _ ih => exact List.forall_mem_cons.2 ⟨by simpa using isLexeme, ih⟩

namespace Breaks

variable {kind : TokenKind} {c : Char} {cs : List Char}

theorem ne_nil (h : Breaks cs) : cs ≠ [] := by
  induction h with
  | numeral => simp
  | layout => simp
  | lexeme _ _ _ ih => simp [ih]

/-- A text that breaks does so whatever stands behind it. -/
theorem append (h : Breaks cs) (ds : List Char) : Breaks (cs ++ ds) := by
  induction h with
  | numeral isNumeral digit point letter =>
      rw [List.append_assoc]
      exact .numeral isNumeral digit point letter
  | layout isLayout _ ih => exact .layout isLayout ih
  | @lexeme kind lexeme cs isLexeme detached broken ih =>
      obtain ⟨c, rest, rfl⟩ := List.exists_cons_of_ne_nil broken.ne_nil
      rw [List.append_assoc]
      refine .lexeme isLexeme ?_ ih
      rintro _ _ ⟨⟩
      exact detached c rest rfl

theorem symbol (h : IsLexeme kind [c]) (single : kind.isWord = false) (broken : Breaks cs) :
    Breaks (c :: cs) :=
  .lexeme h (.of_symbol single) broken

theorem gap {layout : List Char} (blank : ∀ c ∈ layout, isLayout c = true) (h : Breaks cs) :
    Breaks (layout ++ cs) := by
  induction layout with
  | nil => exact h
  | cons c others ih =>
      obtain ⟨first, later⟩ := List.forall_mem_cons.1 blank
      exact .layout first (ih later)

end Breaks

/-- Scanning stops at a lexeme that cannot be read. -/
theorem Token.scanFrom_of_error {position : Nat} {found : List Token} {c : Char}
    {following : List Char} {cause : LexicalError} (visible : isLayout c = false)
    (failed : readLexeme position c following = .error cause) :
    scanFrom position found (c :: following) = .error cause := by
  rw [scanFrom, if_neg (by simp [visible])]
  split
  · rename_i cause' failed'
    exact congrArg Except.error (Except.error.inj (failed'.symm.trans failed))
  · rename_i lexeme read
    cases read.symm.trans failed

/-- Scanning stops at a numeral that cannot be read with what follows it. -/
theorem Token.scanFrom_of_readNumeral {position : Nat} {found : List Token}
    {numeral rest : List Char} {cause : LexicalError} (h : IsNumeral numeral)
    (failed : readNumeral position (numeral ++ rest) = .error cause) :
    scanFrom position found (numeral ++ rest) = .error cause := by
  obtain ⟨c, others, rfl, start⟩ := starts_of_isNumeral h
  have visible : isLayout c = false :=
    Bool.eq_false_iff.2 fun layout => by simp [not_starts_of_isLayout layout] at start
  exact scanFrom_of_error visible ((if_pos start).trans failed)

/-- Scanning a text that breaks stops at a character that is not expected. -/
theorem Breaks.scanFrom_eq {cs : List Char} (h : Breaks cs) (position : Nat) (found : List Token) :
    ∃ cause, scanFrom position found cs = .error cause ∧ cause.kind = .unexpectedCharacter := by
  induction h generalizing position found with
  | numeral isNumeral digit point letter =>
      exact ⟨_, scanFrom_of_readNumeral isNumeral (readNumeral_letter isNumeral digit point letter),
        rfl⟩
  | layout isLayout _ ih =>
      obtain ⟨cause, stopped, kind⟩ := ih (position + 1) found
      exact ⟨cause, by rw [scanFrom, if_pos isLayout, stopped], kind⟩
  | lexeme isLexeme detached _ ih =>
      obtain ⟨cause, stopped, kind⟩ := ih _ _
      exact ⟨cause, by rw [scanFrom_lexeme isLexeme detached, stopped], kind⟩

end Reckoner
