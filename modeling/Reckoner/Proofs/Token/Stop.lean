import Reckoner.Proofs.Token.Words

/-!
# Where scanning stops

A text that cannot be scanned is at fault at one character.  What stands in front of the character
is scanned, and the text fails in the same way whatever stands behind the character.  Only a point
that could still begin a numeral is saved by a digit behind it.

## Implementation notes

`Reaches` follows scanning from the start of a text to a place between two lexemes.  Besides the
tokens it keeps the kind of the lexeme that ends at that place, because this lexeme decides which
characters may stand there.  `Halts` lists what makes reading one lexeme fail, apart from the order
in which the characters are looked at.
-/

namespace Reckoner.Token

open Text (isLayout isLetter isDigit)

section Reaches

/-- Scanning a text comes to its end with the given tokens found, the last one first, and with a
lexeme of the given kind directly in front of the end, if any. -/
inductive Reaches : List Char → List Token → Option TokenKind → Prop
  | start : Reaches [] [] none
  | layout {cs found ending c} : Reaches cs found ending → isLayout c = true →
      Reaches (cs ++ [c]) found none
  | lexeme {cs found ending kind lexeme} : Reaches cs found ending → IsLexeme kind lexeme →
      (∀ front ∈ ending, Detached front lexeme) →
      Reaches (cs ++ lexeme) (⟨kind, String.ofList lexeme, cs.length⟩ :: found) (some kind)

variable {cs rest others following : List Char} {found : List Token} {ending : Option TokenKind}
  {kind : TokenKind} {c : Char}

/-- Whether a lexeme is detached depends on the next character only. -/
theorem Detached.congr (h : Detached kind (cs ++ c :: rest)) :
    Detached kind (cs ++ c :: others) := by
  cases cs with
  | nil =>
      rintro _ _ ⟨⟩
      exact h c rest rfl
  | cons d cs =>
      rintro _ _ ⟨⟩
      exact h d _ rfl

theorem Detached.extend (h : Detached kind cs) (nonempty : cs ≠ []) :
    Detached kind (cs ++ rest) := by
  obtain ⟨c, others, rfl⟩ := List.exists_cons_of_ne_nil nonempty
  rintro _ _ ⟨⟩
  exact h c others rfl

theorem Detached.of_append (h : Detached kind (cs ++ rest)) : Detached kind cs := by
  rintro c others rfl
  exact h c (others ++ rest) rfl

theorem ne_nil_of_isLexeme {lexeme : List Char} (h : IsLexeme kind lexeme) : lexeme ≠ [] := by
  obtain ⟨c, others, rfl, _⟩ := starts_of_isLexeme h
  exact List.cons_ne_nil c others

namespace Reaches

/-- From a place that is reached, scanning goes on with what is detached from the lexeme in front
of it. -/
theorem scanFrom_eq (h : Reaches cs found ending) (apart : ∀ front ∈ ending, Detached front rest) :
    scanFrom 0 [] (cs ++ rest) = scanFrom cs.length found rest := by
  induction h generalizing rest with
  | start => rfl
  | @layout cs found ending c _ isLayout ih =>
      rw [List.append_assoc, List.singleton_append, ih fun _ _ => .layout isLayout, scanFrom,
        if_pos isLayout, List.length_append]
      rfl
  | @lexeme cs found ending kind lexeme _ isLexeme apart' ih =>
      rw [List.append_assoc,
        ih fun front mem => (apart' front mem).extend (ne_nil_of_isLexeme isLexeme),
        scanFrom_lexeme isLexeme (apart kind rfl), List.length_append]

/-- A text whose end is reached is scanned into the tokens found. -/
theorem scan_eq (h : Reaches cs found ending) :
    scan (String.ofList cs) = .ok (found.reverse ++ [⟨.finish, "", cs.length⟩]) := by
  have scanned : scanFrom 0 [] (cs ++ []) = _ := h.scanFrom_eq fun _ _ => .nil
  rw [List.append_nil, scanFrom] at scanned
  rw [scan, String.toList_ofList, scanned]

/-- The last token ends at the place that is reached or in front of it. -/
theorem end_le (h : Reaches cs found ending) :
    ∀ token ∈ found.head?, token.position + token.text.length ≤ cs.length := by
  induction h with
  | start => exact nofun
  | @layout cs found ending c _ _ ih =>
      intro token mem
      have := ih token mem
      rw [List.length_append, List.length_singleton]
      omega
  | lexeme =>
      rintro _ ⟨⟩
      simp

end Reaches

/-- The last of the tokens is a name that ends at the given offset. -/
def EndsInName (tokens : List Token) (offset : Nat) : Prop :=
  ∃ name ∈ tokens.getLast?, name.kind = .name ∧ name.position + name.text.length = offset

/-- The last token is a name that ends at the place that is reached exactly when the lexeme in front
of the place is one. -/
theorem Reaches.endsInName_iff (h : Reaches cs found ending) :
    EndsInName found.reverse cs.length ↔ ending = some .name := by
  rw [EndsInName, List.getLast?_reverse]
  cases h with
  | start => simp
  | @layout cs _ ending c before _ =>
      have bound := before.end_le
      constructor
      · rintro ⟨name, mem, -, ends⟩
        have := bound name mem
        rw [List.length_append, List.length_singleton] at ends
        omega
      · exact nofun
  | lexeme => simp

end Reaches

section Halts

/-- The character behind the lexeme at the given offset stops scanning; without a lexeme, it starts
none.  What follows the character matters for a point only. -/
inductive Halts (position : Nat) : List Char → Char → List Char → LexicalError → Prop
  | character {c after} : isLayout c = false → (isNumeralDigit c || c == '.') = false →
      isNameChar c = false → TokenKind.ofSymbol? c = none →
      Halts position [] c after (.unexpectedCharacter c position)
  | lonePoint {after} : (∀ d ∈ after.head?, isNumeralDigit d = false) →
      Halts position [] '.' after (.lonePoint position)
  | secondPoint {whole fraction after} : whole ++ fraction ≠ [] →
      (∀ c ∈ whole ++ fraction, '0' ≤ c ∧ c ≤ '9') →
      Halts position (whole ++ '.' :: fraction) '.' after
        (.secondPoint (String.ofList (whole ++ '.' :: fraction))
          (position + (whole ++ '.' :: fraction).length))
  | afterNumeral {numeral c after} : IsNumeral numeral → isNumeralDigit c = false → c ≠ '.' →
      isLetter c = true →
      Halts position numeral c after
        (.afterNumeral (String.ofList numeral) c (position + numeral.length))
  | afterName {name c after} : IsName name → isNameChar c = false →
      (isDigit c || c == '.') = true →
      Halts position name c after (.afterName (String.ofList name) c (position + name.length))

variable {position : Nat} {found : List Token} {word after cs following : List Char} {c : Char}
  {cause : LexicalError}

/-- A second point behind a numeral is reported. -/
theorem readNumeral_secondPoint {whole fraction : List Char} (nonempty : whole ++ fraction ≠ [])
    (digits : ∀ c ∈ whole ++ fraction, '0' ≤ c ∧ c ≤ '9') :
    readNumeral position (whole ++ '.' :: fraction ++ '.' :: after) =
      .error (.secondPoint (String.ofList (whole ++ '.' :: fraction))
        (position + (whole ++ '.' :: fraction).length)) := by
  have numeral : IsNumeral (whole ++ '.' :: fraction) := .inr ⟨whole, fraction, rfl, nonempty, digits⟩
  have ends : numeralOf (whole ++ '.' :: fraction ++ '.' :: after) = _ :=
    numeralOf_point digits (by rintro _ _ ⟨⟩; decide)
  unfold readNumeral
  rw [ends, afterNumeral_of_numeralOf ends]
  dsimp only
  rw [if_neg (ne_point_of_isNumeral numeral), if_pos rfl]

/-- A digit or a point behind a name is reported. -/
theorem readName_glued (name : IsName word) (letter : isNameChar c = false)
    (glued : (isDigit c || c == '.') = true) :
    readName position (word ++ c :: after) =
      .error (.afterName (String.ofList word) c (position + word.length)) := by
  have stops : ∀ d following, c :: after = d :: following → isNameChar d = false := by
    rintro _ _ ⟨⟩
    exact letter
  obtain ⟨taken, dropped⟩ := span_append (fun d mem => isNameChar_iff.2 (name.2 d mem)) stops
  unfold readName
  rw [taken, dropped]
  exact if_pos glued

/-- Scanning stops at a name that cannot be read with what follows it. -/
theorem scanFrom_of_readName (name : IsName word)
    (failed : readName position (word ++ following) = .error cause) :
    scanFrom position found (word ++ following) = .error cause := by
  obtain ⟨d, others, rfl, start⟩ := starts_of_isName name
  have visible : isLayout d = false :=
    Bool.eq_false_iff.2 fun layout => by simp [not_starts_of_isLayout layout] at start
  refine scanFrom_of_error visible ?_
  rw [readLexeme, if_neg (by simp [not_numeral_of_isNameChar start]), if_pos start]
  exact failed

/-- A character that stops scanning is reported. -/
theorem Halts.scanFrom_eq (h : Halts position word c after cause) :
    scanFrom position found (word ++ c :: after) = .error cause := by
  cases h with
  | character visible numeral name symbol =>
      refine scanFrom_of_error visible ?_
      rw [readLexeme, if_neg (by simp [numeral]), if_neg (by simp [name]), symbol]
  | lonePoint stops =>
      have digits : after.takeWhile isNumeralDigit = [] := by
        cases after with
        | nil => rfl
        | cons d others => simp [stops d rfl]
      have alone : numeralOf ('.' :: after) = ['.'] := by
        simp [numeralOf, isNumeralDigit, digits]
      refine scanFrom_of_error (by decide) ?_
      rw [readLexeme, if_pos (by decide), readNumeral]
      exact if_pos alone
  | @secondPoint whole fraction _ nonempty digits =>
      exact scanFrom_of_readNumeral (.inr ⟨whole, fraction, rfl, nonempty, digits⟩)
        (readNumeral_secondPoint nonempty digits)
  | afterNumeral numeral digit point letter =>
      exact scanFrom_of_readNumeral numeral (readNumeral_letter numeral digit point letter)
  | afterName name letter glued =>
      exact scanFrom_of_readName name (readName_glued name letter glued)

/-- A numeral that a second point follows has a point itself. -/
theorem exists_point_of_afterNumeral (h : afterNumeral cs = '.' :: after)
    (digits : numeralOf cs ≠ ['.']) :
    ∃ whole fraction, numeralOf cs = whole ++ '.' :: fraction ∧ whole ++ fraction ≠ [] ∧
      ∀ c ∈ whole ++ fraction, '0' ≤ c ∧ c ≤ '9' := by
  unfold afterNumeral at h
  unfold numeralOf at digits ⊢
  split at h
  · rename_i afterPoint point
    rw [point] at digits
    refine ⟨_, _, rfl, fun empty => ?_, fun c mem => isNumeralDigit_iff.1 ?_⟩
    · obtain ⟨whole, fraction⟩ := List.append_eq_nil_iff.1 empty
      rw [whole, List.nil_append] at digits
      exact digits (congrArg (List.cons '.') fraction)
    · exact (List.mem_append.1 mem).elim (List.all_eq_true.1 List.all_takeWhile c)
        (List.all_eq_true.1 List.all_takeWhile c)
  · rename_i none
    exact absurd h (none after)

theorem exists_halts_of_readNumeral (start : (isNumeralDigit c || c == '.') = true)
    (h : readNumeral position (c :: following) = .error cause) :
    ∃ word d after, word ++ d :: after = c :: following ∧ Halts position word d after cause := by
  have parts := numeralOf_append_afterNumeral (c :: following)
  unfold readNumeral at h
  dsimp only at h
  split at h
  · rename_i alone
    cases h
    rw [alone, List.singleton_append] at parts
    refine ⟨[], '.', _, parts, .lonePoint fun d mem => ?_⟩
    obtain ⟨others, behind⟩ := List.head?_eq_some_iff.1 mem
    exact not_digit_of_afterNumeral behind
  · rename_i digits
    split at h
    · cases h
    · rename_i d behind found
      rw [found] at parts
      split at h
      · rename_i point
        cases h
        subst point
        obtain ⟨whole, fraction, same, nonempty, isDigits⟩ :=
          exists_point_of_afterNumeral found digits
        rw [same] at parts ⊢
        exact ⟨_, _, _, parts, .secondPoint nonempty isDigits⟩
      · rename_i point
        split at h
        · rename_i letter
          cases h
          exact ⟨_, _, _, parts, .afterNumeral (isNumeral_numeralOf start digits)
            (not_digit_of_afterNumeral found) point letter⟩
        · cases h

theorem exists_halts_of_readName (start : isNameChar c = true)
    (h : readName position (c :: following) = .error cause) :
    ∃ word d after, word ++ d :: after = c :: following ∧ Halts position word d after cause := by
  have parts := List.takeWhile_append_dropWhile (p := isNameChar) (l := c :: following)
  unfold readName at h
  dsimp only at h
  split at h
  · cases h
  · rename_i d behind found
    rw [found] at parts
    split at h
    · rename_i glued
      cases h
      have isName : IsName ((c :: following).takeWhile isNameChar) :=
        isName_of_all (by simp [start]) List.all_takeWhile
      exact ⟨_, _, _, parts, .afterName isName (eq_false_of_dropWhile found) glued⟩
    · cases h

/-- A lexeme that cannot be read is stopped by a character. -/
theorem exists_halts_of_readLexeme (visible : isLayout c = false)
    (h : readLexeme position c following = .error cause) :
    ∃ word d after, word ++ d :: after = c :: following ∧ Halts position word d after cause := by
  unfold readLexeme at h
  split at h
  · rename_i start
    exact exists_halts_of_readNumeral start h
  · rename_i numeral
    split at h
    · rename_i letter
      exact exists_halts_of_readName letter h
    · rename_i letter
      split at h
      · cases h
      · rename_i symbol
        cases h
        exact ⟨[], c, following, rfl, .character visible (by simpa using numeral)
          (by simpa using letter) symbol⟩

/-- Only the digits behind a lone point matter. -/
theorem Halts.replace (h : Halts position word c after cause) (others : List Char)
    (stops : ∀ offset, cause = .lonePoint offset → ∀ d ∈ others.head?, isNumeralDigit d = false) :
    Halts position word c others cause := by
  cases h with
  | character visible numeral name symbol => exact .character visible numeral name symbol
  | lonePoint => exact .lonePoint (stops _ rfl)
  | secondPoint nonempty digits => exact .secondPoint nonempty digits
  | afterNumeral numeral digit point letter => exact .afterNumeral numeral digit point letter
  | afterName name letter glued => exact .afterName name letter glued

theorem Halts.position_eq (h : Halts position word c after cause) :
    cause.position = position + word.length := by
  cases h <;> rfl

end Halts

section Prefix

variable {cs rest word after : List Char} {found : List Token} {ending : Option TokenKind}
  {c : Char} {position : Nat} {cause : LexicalError}

/-- Scanning that stops reaches the lexeme in front of the character that stops it. -/
theorem exists_halts_of_scanFrom (stopped : scanFrom position found rest = .error cause)
    (reached : Reaches cs found ending) (place : position = cs.length)
    (apart : ∀ front ∈ ending, Detached front rest) :
    ∃ cs' found' ending' word c after, cs ++ rest = cs' ++ (word ++ c :: after) ∧
      Reaches cs' found' ending' ∧ (∀ front ∈ ending', Detached front (word ++ c :: after)) ∧
      Halts cs'.length word c after cause := by
  fun_induction scanFrom position found rest generalizing cs ending with
  | case1 => cases stopped
  | case2 position found c following layout ih =>
      rw [List.append_cons]
      exact ih stopped (reached.layout layout) (by simp [place]) (by simp)
  | case3 position found c following visible cause' failed =>
      cases stopped
      obtain ⟨word, d, after, same, halts⟩ :=
        exists_halts_of_readLexeme (by simpa using visible) failed
      rw [← same] at apart ⊢
      exact ⟨cs, found, ending, word, d, after, rfl, reached, apart, place ▸ halts⟩
  | case4 position found c following _ lexeme read ih =>
      obtain ⟨isLexeme, whole, detached⟩ := isLexeme_of_readLexeme read
      rw [← whole] at apart ⊢
      rw [← List.append_assoc]
      subst place
      refine ih stopped (reached.lexeme isLexeme fun front mem => ?_) (by simp) ?_
      · exact (apart front mem).of_append
      · rintro _ ⟨⟩
        exact detached

/-- The character that stops scanning is reached.  It is a malformed numeral exactly for a point
that is not behind a name, and a lone point is behind neither a name nor a numeral. -/
theorem Halts.exists_reaches (h : Halts cs.length word c after cause)
    (reached : Reaches cs found ending)
    (apart : ∀ front ∈ ending, Detached front (word ++ c :: after)) :
    ∃ found' ending', Reaches (cs ++ word) found' ending' ∧
      (cause.kind = .malformedNumber ↔ c = '.' ∧ ending' ≠ some .name) ∧
      ∀ offset, cause = .lonePoint offset →
        c = '.' ∧ ∀ front ∈ ending', touches front '.' = false := by
  have behind {kind : TokenKind} (isLexeme : IsLexeme kind word) :=
    reached.lexeme isLexeme fun front mem => (apart front mem).of_append
  cases h with
  | character _ numeral =>
      refine ⟨found, ending, by rwa [List.append_nil], ?_, nofun⟩
      have point : c ≠ '.' := by
        rintro rfl
        cases numeral
      simp [LexicalError.kind, point]
  | lonePoint =>
      have free (front : TokenKind) (mem : front ∈ ending) : touches front '.' = false :=
        apart front mem '.' after rfl
      refine ⟨found, ending, by rwa [List.append_nil], ?_, fun _ _ => ⟨rfl, free⟩⟩
      have unnamed : ending ≠ some .name := fun named => by cases free .name named
      simp [LexicalError.kind, unnamed]
  | @secondPoint whole fraction _ nonempty digits =>
      refine ⟨_, _, behind (.number (.inr ⟨whole, fraction, rfl, nonempty, digits⟩)), ?_, nofun⟩
      simp [LexicalError.kind]
  | afterNumeral numeral _ point =>
      refine ⟨_, _, behind (.number numeral), ?_, nofun⟩
      simp [LexicalError.kind, point]
  | afterName name =>
      refine ⟨_, _, behind (.name name), ?_, nofun⟩
      simp [LexicalError.kind]

/-- A point behind the text, which has the given tokens, starts a numeral: with a digit behind it,
it is one. -/
def StartsNumeral (cs : List Char) (tokens : List Token) : Prop :=
  ∀ d, '0' ≤ d ∧ d ≤ '9' →
    scan (String.ofList (cs ++ ['.', d])) =
      .ok (tokens ++ [⟨.number, String.ofList ['.', d], cs.length⟩, ⟨.finish, "", cs.length + 2⟩])

theorem Reaches.startsNumeral (h : Reaches cs found ending)
    (free : ∀ front ∈ ending, touches front '.' = false) : StartsNumeral cs found.reverse := by
  intro d digit
  have numeral : IsNumeral ['.', d] :=
    .inr ⟨[], [d], rfl, List.cons_ne_nil _ _, by simpa using digit⟩
  have apart : ∀ front ∈ ending, Detached front ['.', d] := by
    rintro front mem _ _ ⟨⟩
    exact free front mem
  rw [(h.lexeme (.number numeral) apart).scan_eq, List.reverse_cons, List.append_assoc]
  simp

end Prefix

/-- If a text cannot be scanned, then the text in front of the position in the error is scanned, and
the text up to and with the character at this position fails with the same error whatever stands
behind it, except that a point that starts a numeral may have a digit behind it.  The error is that
of a malformed numeral exactly where the character is a point and no name stands directly in front
of it. -/
theorem scan_error_prefix (source : String) (cause : LexicalError)
    (stopped : scan source = .error cause) :
    cause.position < source.length ∧
    ∃ front : List Token,
      scan (String.ofList (source.toList.take cause.position)) =
        .ok (front ++ [⟨.finish, "", cause.position⟩]) ∧
      ((∀ t : List Char,
          scan (String.ofList (source.toList.take (cause.position + 1) ++ t)) = .error cause) ∨
        cause.kind = .malformedNumber ∧ source.toList[cause.position]? = some '.' ∧
          StartsNumeral (source.toList.take cause.position) front ∧
          ∀ t : List Char, (∀ d ∈ t.head?, ¬('0' ≤ d ∧ d ≤ '9')) →
            scan (String.ofList (source.toList.take (cause.position + 1) ++ t)) = .error cause) ∧
      (cause.kind = .malformedNumber ↔
        source.toList[cause.position]? = some '.' ∧ ¬EndsInName front cause.position) := by
  obtain ⟨cs, found, ending, word, c, after, text, reached, apart, halts⟩ :=
    exists_halts_of_scanFrom stopped .start rfl nofun
  obtain ⟨found', ending', reached', malformed, lone⟩ := halts.exists_reaches reached apart
  have place : cause.position = (cs ++ word).length := by rw [halts.position_eq, List.length_append]
  have text : source.toList = cs ++ word ++ c :: after := by simpa using text
  have extended (t : List Char) (stops : ∀ offset, cause = .lonePoint offset →
      ∀ d ∈ t.head?, isNumeralDigit d = false) :
      scan (String.ofList (cs ++ word ++ c :: t)) = .error cause := by
    rw [scan, String.toList_ofList, List.append_assoc,
      reached.scanFrom_eq fun front mem => (apart front mem).congr]
    exact (halts.replace t stops).scanFrom_eq
  have front : source.toList.take (cs ++ word).length = cs ++ word := by
    rw [text, List.take_left]
  have upTo : source.toList.take ((cs ++ word).length + 1) = cs ++ word ++ [c] := by
    rw [text, List.take_length_add_append]
    rfl
  have offender : source.toList[(cs ++ word).length]? = some c := by
    rw [text, List.getElem?_append_right (Nat.le_refl _), Nat.sub_self]
    rfl
  have length : source.length = (cs ++ word).length + (after.length + 1) := by
    rw [← String.length_toList, text, List.length_append, List.length_cons]
  rw [place, front, upTo, offender]
  simp only [List.append_assoc _ [c], List.singleton_append, Option.some.injEq]
  refine ⟨by omega, found'.reverse, reached'.scan_eq, ?_, ?_⟩
  · by_cases single : ∃ offset, cause = .lonePoint offset
    · obtain ⟨offset, rfl⟩ := single
      obtain ⟨rfl, free⟩ := lone offset rfl
      refine .inr ⟨rfl, rfl, reached'.startsNumeral free, fun t stops => extended t ?_⟩
      intro _ _ d mem
      exact Bool.eq_false_iff.2 fun digit => stops d mem (isNumeralDigit_iff.1 digit)
    · exact .inl fun t => extended t fun offset same => absurd ⟨offset, same⟩ single
  · rw [malformed, reached'.endsInName_iff]

/-- In `7 .` the point is at fault, and it still is with a sign behind it. -/
theorem scan_lone_point : scan "7 ." = .error (.lonePoint 2) ∧
    scan "7 .+" = .error (.lonePoint 2) := by
  have numeral : IsNumeral ['7'] :=
    .inl ⟨List.cons_ne_nil _ _, List.forall_mem_singleton.2 (by decide)⟩
  have blank : isLayout ' ' = true := rfl
  have reached := (Reaches.start.lexeme (.number numeral) (by simp)).layout blank
  have stopped : scan "7 ." = .error (.lonePoint 2) :=
    (reached.scanFrom_eq (by simp)).trans (Halts.lonePoint (by simp)).scanFrom_eq
  obtain ⟨-, front, -, fails | ⟨-, -, -, fails⟩, -⟩ := scan_error_prefix _ _ stopped
  · exact ⟨stopped, fails ['+']⟩
  · exact ⟨stopped, fails ['+'] (by simp)⟩

end Reckoner.Token
