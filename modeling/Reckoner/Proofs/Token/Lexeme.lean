import Reckoner.Token.Scan
import Reckoner.Token.Spelling

/-!
# Reading one lexeme

A lexeme is read off the front of a text exactly when it is one of its kind and what follows does
not touch it.  Touching covers both the characters that would make the lexeme longer and those that
may not stand behind it.
-/

namespace Reckoner.Token

open Text

section Character

variable {kind symbol : TokenKind} {c : Char}

theorem isNumeralDigit_iff : isNumeralDigit c = true ↔ '0' ≤ c ∧ c ≤ '9' := by
  rw [isNumeralDigit, decide_eq_true_iff]
  exact Iff.rfl

theorem isNameChar_iff : isNameChar c = true ↔ 'a' ≤ c ∧ c ≤ 'z' := by
  rw [isNameChar, decide_eq_true_iff]
  exact Iff.rfl

theorem isName_of_all {cs : List Char} (nonempty : cs ≠ []) (h : cs.all isNameChar = true) :
    IsName cs :=
  ⟨nonempty, fun c mem => isNameChar_iff.1 (List.all_eq_true.1 h c mem)⟩

theorem isDigit_of_isNumeralDigit (h : isNumeralDigit c = true) : isDigit c = true := by
  rw [isNumeralDigit, decide_eq_true_iff] at h
  obtain ⟨later, ranges⟩ : ∃ later, digitRanges = (0x30, 0x39) :: later := ⟨_, rfl⟩
  rw [isDigit, ranges, inRanges, if_neg (by omega), if_pos h.2]

theorem isLetter_of_isNameChar (h : isNameChar c = true) : isLetter c = true := by
  rw [isNameChar, decide_eq_true_iff] at h
  obtain ⟨later, ranges⟩ : ∃ later, letterRanges = (0x41, 0x5a) :: (0x61, 0x7a) :: later :=
    ⟨_, rfl⟩
  rw [isLetter, ranges, inRanges, if_neg (by omega), if_neg (by omega), inRanges,
    if_neg (by omega), if_pos h.2]

/-- A letter of a name starts no numeral. -/
theorem not_numeral_of_isNameChar (h : isNameChar c = true) :
    (isNumeralDigit c || c == '.') = false := by
  rw [isNameChar, decide_eq_true_iff] at h
  rw [Bool.or_eq_false_iff, isNumeralDigit, decide_eq_false_iff_not, beq_eq_false_iff_ne]
  constructor
  · omega
  · rintro rfl
    exact absurd h (by decide)

/-- The single characters that are lexemes are those that make a token of their own. -/
theorem ofSymbol?_eq_some_iff :
    TokenKind.ofSymbol? c = some kind ↔ IsLexeme kind [c] ∧ kind.isWord = false := by
  constructor
  · intro h
    unfold TokenKind.ofSymbol? at h
    repeat' split at h
    all_goals cases h
    all_goals subst c
    all_goals exact ⟨by constructor, rfl⟩
  · rintro ⟨lexeme, symbol⟩
    cases lexeme <;> first | rfl | cases symbol

/-- Layout starts no lexeme. -/
theorem not_starts_of_isLayout (h : isLayout c = true) :
    (isNumeralDigit c || c == '.') = false ∧ isNameChar c = false ∧
      TokenKind.ofSymbol? c = none := by
  simp only [isLayout, Bool.or_eq_true, beq_iff_eq, or_assoc] at h
  rcases h with rfl | rfl | rfl | rfl <;> decide

/-- The characters that make a token of their own start no word. -/
theorem not_word_of_ofSymbol? (h : TokenKind.ofSymbol? c = some kind) :
    (isNumeralDigit c || c == '.') = false ∧ isNameChar c = false := by
  obtain ⟨lexeme, symbol⟩ := ofSymbol?_eq_some_iff.1 h
  cases lexeme <;> first | decide | cases symbol

/-- The characters that may not stand directly behind a lexeme of a kind. -/
def touches : TokenKind → Char → Bool
  | .number, c => isNumeralDigit c || c == '.' || isLetter c
  | .name, c => isNameChar c || isDigit c || c == '.'
  | _, _ => false

theorem touches_symbol (h : kind.isWord = false) : touches kind c = false := by
  cases kind <;> first | rfl | cases h

theorem not_touches_of_isLayout (h : isLayout c = true) : touches kind c = false := by
  simp only [isLayout, Bool.or_eq_true, beq_iff_eq, or_assoc] at h
  rcases h with rfl | rfl | rfl | rfl <;> cases kind <;> decide

theorem not_touches_of_ofSymbol? (h : TokenKind.ofSymbol? c = some symbol) :
    touches kind c = false := by
  obtain ⟨lexeme, single⟩ := ofSymbol?_eq_some_iff.1 h
  cases lexeme <;> first | (cases kind <;> decide) | cases single

/-- A word touches every character that a word can start with. -/
theorem touches_of_starts_word (h : kind.isWord = true)
    (start : (isNumeralDigit c || c == '.') = true ∨ isNameChar c = true) :
    touches kind c = true := by
  simp only [Bool.or_eq_true, beq_iff_eq] at start
  cases kind with
  | number =>
      rcases start with (digit | point) | letter
      · simp [touches, digit]
      · simp [touches, point]
      · simp [touches, isLetter_of_isNameChar letter]
  | name =>
      rcases start with (digit | point) | letter
      · simp [touches, isDigit_of_isNumeralDigit digit]
      · simp [touches, point]
      · simp [touches, letter]
  | _ => cases h

end Character

/-- The text behind a lexeme is empty or starts with a character that does not touch it. -/
def Detached (kind : TokenKind) (rest : List Char) : Prop :=
  ∀ c following, rest = c :: following → touches kind c = false

theorem Detached.of_symbol {kind : TokenKind} {rest : List Char} (h : kind.isWord = false) :
    Detached kind rest := fun _ _ _ => touches_symbol h

section Span

variable {p : Char → Bool} {cs rest following : List Char} {c : Char}

theorem eq_false_of_dropWhile (h : cs.dropWhile p = c :: following) : p c = false := by
  have := List.head?_dropWhile_not p cs
  rw [h] at this
  exact this

theorem span_append (inside : ∀ c ∈ cs, p c = true)
    (stops : ∀ c following, rest = c :: following → p c = false) :
    (cs ++ rest).takeWhile p = cs ∧ (cs ++ rest).dropWhile p = rest := by
  rw [List.takeWhile_append_of_pos inside, List.dropWhile_append_of_pos inside]
  cases rest with
  | nil => simp
  | cons c following => simp [stops c following rfl]

end Span

section Numeral

variable {cs rest : List Char}

theorem isNumeral_numeralOf {c : Char} (start : (isNumeralDigit c || c == '.') = true)
    (h : numeralOf (c :: cs) ≠ ['.']) : IsNumeral (numeralOf (c :: cs)) := by
  have nonempty := numeralOf_ne_nil cs start
  have digits (l : List Char) : ∀ d ∈ l.takeWhile isNumeralDigit, '0' ≤ d ∧ d ≤ '9' :=
    fun d mem => isNumeralDigit_iff.1 (List.all_eq_true.1 List.all_takeWhile d mem)
  revert h nonempty
  unfold numeralOf
  split
  · rename_i afterPoint _
    intro h _
    refine .inr ⟨_, _, rfl, ?_, ?_⟩
    · intro empty
      obtain ⟨whole, fraction⟩ := List.append_eq_nil_iff.1 empty
      rw [whole, fraction] at h
      exact h rfl
    · intro d mem
      exact (List.mem_append.1 mem).elim (digits _ d) (digits _ d)
  · intro _ nonempty
    rw [List.append_nil] at nonempty ⊢
    exact .inl ⟨nonempty, digits _⟩

theorem not_digit_of_afterNumeral {d : Char} {following : List Char}
    (h : afterNumeral cs = d :: following) : isNumeralDigit d = false := by
  unfold afterNumeral at h
  split at h
  · exact eq_false_of_dropWhile h
  · exact eq_false_of_dropWhile h

/-- A numeral with a point ends where no digit follows it. -/
theorem numeralOf_point {whole fraction : List Char}
    (digits : ∀ c ∈ whole ++ fraction, '0' ≤ c ∧ c ≤ '9')
    (stops : ∀ c following, rest = c :: following → isNumeralDigit c = false) :
    numeralOf (whole ++ '.' :: fraction ++ rest) = whole ++ '.' :: fraction := by
  have digits' : ∀ c ∈ whole ++ fraction, isNumeralDigit c = true :=
    fun c mem => isNumeralDigit_iff.2 (digits c mem)
  have point : ∀ c following, '.' :: (fraction ++ rest) = c :: following →
      isNumeralDigit c = false := by
    rintro _ _ ⟨⟩
    decide
  obtain ⟨taken, dropped⟩ :=
    span_append (fun c mem => digits' c (List.mem_append_left _ mem)) point
  have fractionTaken :=
    (span_append (fun c mem => digits' c (List.mem_append_right _ mem)) stops).1
  unfold numeralOf
  rw [List.append_assoc, List.cons_append, taken, dropped]
  simp only [fractionTaken]

/-- A numeral ends where neither a digit nor a point follows it. -/
theorem numeralOf_append_of_apart (h : IsNumeral cs)
    (apart : ∀ c following, rest = c :: following → isNumeralDigit c = false ∧ c ≠ '.') :
    numeralOf (cs ++ rest) = cs := by
  rcases h with ⟨_, digits⟩ | ⟨whole, fraction, rfl, _, digits⟩
  · obtain ⟨taken, dropped⟩ := span_append (fun c mem => isNumeralDigit_iff.2 (digits c mem))
      fun c following found => (apart c following found).1
    unfold numeralOf
    rw [taken, dropped]
    split
    · exact absurd rfl (apart _ _ rfl).2
    · exact List.append_nil cs
  · exact numeralOf_point digits fun c following found => (apart c following found).1

/-- What follows a numeral is what the text has behind it. -/
theorem afterNumeral_of_numeralOf (h : numeralOf (cs ++ rest) = cs) :
    afterNumeral (cs ++ rest) = rest := by
  have parts := numeralOf_append_afterNumeral (cs ++ rest)
  rw [h] at parts
  exact List.append_cancel_left parts

theorem afterNumeral_append_of_apart (h : IsNumeral cs)
    (apart : ∀ c following, rest = c :: following → isNumeralDigit c = false ∧ c ≠ '.') :
    afterNumeral (cs ++ rest) = rest :=
  afterNumeral_of_numeralOf (numeralOf_append_of_apart h apart)

theorem Detached.apart (h : Detached .number rest) :
    ∀ c following, rest = c :: following → isNumeralDigit c = false ∧ c ≠ '.' := by
  intro c following found
  have := h c following found
  simp only [touches, Bool.or_eq_false_iff, beq_eq_false_iff_ne] at this
  exact this.1

theorem numeralOf_append (h : IsNumeral cs) (detached : Detached .number rest) :
    numeralOf (cs ++ rest) = cs := numeralOf_append_of_apart h detached.apart

theorem afterNumeral_append (h : IsNumeral cs) (detached : Detached .number rest) :
    afterNumeral (cs ++ rest) = rest := afterNumeral_append_of_apart h detached.apart

theorem ne_point_of_isNumeral (h : IsNumeral cs) : cs ≠ ['.'] := by
  rintro rfl
  rcases h with ⟨_, digits⟩ | ⟨whole, fraction, same, nonempty, _⟩
  · exact absurd (digits '.' List.mem_cons_self) (by decide)
  · cases whole with
    | nil => simp_all
    | cons c others => simp at same

end Numeral

section Lexeme

variable {position : Nat} {kind : TokenKind} {c : Char} {cs following text rest : List Char}
  {lexeme : Lexeme}

theorem readNumeral_eq_ok_iff :
    readNumeral position cs = .ok lexeme ↔
      ⟨.number, numeralOf cs, afterNumeral cs⟩ = lexeme ∧ numeralOf cs ≠ ['.'] ∧
        Detached .number (afterNumeral cs) := by
  unfold readNumeral
  dsimp only
  split
  · rename_i point
    simp [point]
  · rename_i digits
    split
    · rename_i found
      simp [found, digits, Detached]
    · rename_i d behind found
      have touching : Detached .number (d :: behind) ↔ d ≠ '.' ∧ isLetter d = false := by
        simp [Detached, touches, not_digit_of_afterNumeral found]
      rw [found, touching]
      split
      · rename_i point
        simp [point]
      · rename_i point
        split
        · rename_i letter
          simp [letter]
        · rename_i letter
          simp [digits, point, letter]

/-- A letter behind a numeral is reported. -/
theorem readNumeral_letter (h : IsNumeral cs) (digit : isNumeralDigit c = false) (point : c ≠ '.')
    (letter : isLetter c = true) :
    readNumeral position (cs ++ c :: following) =
      .error (.afterNumeral (String.ofList cs) c (position + cs.length)) := by
  have apart : ∀ d others, c :: following = d :: others → isNumeralDigit d = false ∧ d ≠ '.' := by
    rintro _ _ ⟨⟩
    exact ⟨digit, point⟩
  unfold readNumeral
  rw [numeralOf_append_of_apart h apart, afterNumeral_append_of_apart h apart]
  dsimp only
  rw [if_neg (ne_point_of_isNumeral h), if_neg point, if_pos letter]

theorem readName_eq_ok_iff :
    readName position cs = .ok lexeme ↔
      ⟨.name, cs.takeWhile isNameChar, cs.dropWhile isNameChar⟩ = lexeme ∧
        Detached .name (cs.dropWhile isNameChar) := by
  unfold readName
  dsimp only
  split
  · rename_i found
    simp [found, Detached]
  · rename_i d behind found
    have touching : Detached .name (d :: behind) ↔ (isDigit d || d == '.') = false := by
      simp [Detached, touches, eq_false_of_dropWhile found]
    rw [found, touching]
    split
    · rename_i glued
      simp [glued]
    · rename_i apart
      simp [apart]

/-- What is read is a lexeme, nothing is lost, and nothing touches it. -/
theorem isLexeme_of_readLexeme (h : readLexeme position c following = .ok ⟨kind, text, rest⟩) :
    IsLexeme kind text ∧ text ++ rest = c :: following ∧ Detached kind rest := by
  unfold readLexeme at h
  split at h
  · rename_i start
    obtain ⟨⟨⟩, digits, detached⟩ := readNumeral_eq_ok_iff.1 h
    exact ⟨.number (isNumeral_numeralOf start digits), numeralOf_append_afterNumeral _, detached⟩
  · split at h
    · rename_i letter
      obtain ⟨⟨⟩, detached⟩ := readName_eq_ok_iff.1 h
      refine ⟨.name ⟨by simp [letter], ?_⟩, List.takeWhile_append_dropWhile, detached⟩
      exact fun d mem => isNameChar_iff.1 (List.all_eq_true.1 List.all_takeWhile d mem)
    · split at h
      · rename_i symbol found
        cases h
        obtain ⟨lexeme, single⟩ := ofSymbol?_eq_some_iff.1 found
        exact ⟨lexeme, rfl, .of_symbol single⟩
      · cases h

/-- A numeral starts with a digit or a point. -/
theorem starts_of_isNumeral (h : IsNumeral cs) :
    ∃ c following, cs = c :: following ∧ (isNumeralDigit c || c == '.') = true := by
  rcases h with ⟨nonempty, digits⟩ | ⟨whole, fraction, rfl, _, digits⟩
  · obtain ⟨c, following, rfl⟩ := List.exists_cons_of_ne_nil nonempty
    exact ⟨c, following, rfl, by simp [isNumeralDigit_iff.2 (digits c List.mem_cons_self)]⟩
  · cases whole with
    | nil => exact ⟨'.', fraction, rfl, by decide⟩
    | cons c others =>
        exact ⟨c, _, rfl, by simp [isNumeralDigit_iff.2 (digits c (by simp))]⟩

theorem starts_of_isName (h : IsName cs) :
    ∃ c following, cs = c :: following ∧ isNameChar c = true := by
  obtain ⟨c, following, rfl⟩ := List.exists_cons_of_ne_nil h.1
  exact ⟨c, following, rfl, isNameChar_iff.2 (h.2 c List.mem_cons_self)⟩

/-- Names alone are spelled like names. -/
theorem kind_eq_name_of_isLexeme (h : IsLexeme kind text) (name : IsName text) : kind = .name := by
  obtain ⟨c, following, rfl, letter⟩ := starts_of_isName name
  cases h with
  | name _ => rfl
  | number numeral =>
      obtain ⟨d, others, same, start⟩ := starts_of_isNumeral numeral
      cases same
      rw [not_numeral_of_isNameChar letter] at start
      cases start
  | _ => cases letter

theorem ne_finish_of_isLexeme (h : IsLexeme kind text) : kind ≠ .finish := by
  rintro rfl
  cases h

theorem singleton_of_isLexeme (h : IsLexeme kind text) (single : kind.isWord = false) :
    ∃ c, text = [c] := by
  cases h <;> first | exact ⟨_, rfl⟩ | cases single

/-- A lexeme starts with a character that is no layout. -/
theorem starts_of_isLexeme (h : IsLexeme kind text) :
    ∃ c following, text = c :: following ∧ isLayout c = false := by
  have apart {c : Char} (start : ¬((isNumeralDigit c || c == '.') = false ∧
      isNameChar c = false ∧ TokenKind.ofSymbol? c = none)) : isLayout c = false :=
    Bool.eq_false_iff.2 fun layout => start (not_starts_of_isLayout layout)
  cases word : kind.isWord with
  | false =>
      obtain ⟨c, rfl⟩ := singleton_of_isLexeme h word
      exact ⟨c, [], rfl, apart (by simp [ofSymbol?_eq_some_iff.2 ⟨h, word⟩])⟩
  | true =>
      cases h with
      | number numeral =>
          obtain ⟨c, following, same, start⟩ := starts_of_isNumeral numeral
          exact ⟨c, following, same, apart (by simp [start])⟩
      | name name =>
          obtain ⟨c, following, same, letter⟩ := starts_of_isName name
          exact ⟨c, following, same, apart (by simp [letter])⟩
      | _ => cases word

/-- A lexeme with something detached behind it is read off. -/
theorem readLexeme_of_isLexeme (h : IsLexeme kind text) (whole : text ++ rest = c :: following)
    (detached : Detached kind rest) :
    readLexeme position c following = .ok ⟨kind, text, rest⟩ := by
  unfold readLexeme
  cases word : kind.isWord with
  | false =>
      obtain ⟨d, rfl⟩ := singleton_of_isLexeme h word
      cases whole
      have found := ofSymbol?_eq_some_iff.2 ⟨h, word⟩
      obtain ⟨digit, letter⟩ := not_word_of_ofSymbol? found
      rw [if_neg (by simp [digit]), if_neg (by simp [letter]), found]
      rfl
  | true =>
      cases h with
      | number numeral =>
          obtain ⟨d, others, rfl, start⟩ := starts_of_isNumeral numeral
          cases List.head_eq_of_cons_eq whole
          rw [if_pos start, readNumeral_eq_ok_iff, ← whole, numeralOf_append numeral detached,
            afterNumeral_append numeral detached]
          exact ⟨rfl, ne_point_of_isNumeral numeral, detached⟩
      | name name =>
          obtain ⟨d, others, rfl, letter⟩ := starts_of_isName name
          cases List.head_eq_of_cons_eq whole
          have stops : ∀ c following, rest = c :: following → isNameChar c = false := by
            intro c following found
            have := detached c following found
            simp only [touches, Bool.or_eq_false_iff] at this
            exact this.1.1
          obtain ⟨taken, dropped⟩ :=
            span_append (fun c mem => isNameChar_iff.2 (name.2 c mem)) stops
          rw [if_neg (by simp [not_numeral_of_isNameChar letter]), if_pos letter,
            readName_eq_ok_iff, ← whole, taken, dropped]
          exact ⟨rfl, detached⟩
      | _ => cases word

end Lexeme

end Reckoner.Token
