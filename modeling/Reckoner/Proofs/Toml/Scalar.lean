import Mathlib.Data.List.Basic
import Reckoner.Toml.Writing

/-!
# Numbers are read as they are written

A decimal number in front of something that ends a value is read as the number that was written, and
so are the infinities and NaN.

## Implementation notes

Every reader takes what it can, so each lemma has a condition on the first character of what
follows.  Numbers that are written end in front of blanks, line breaks, comments and punctuation,
none of which continues any number, date or time.
-/

namespace Reckoner.Toml

open Decimal (isAsciiDigit readSign)

/-- The characters that may follow a value. -/
def isEnd (c : Char) : Bool := isGap c || c == '#' || c == ',' || c == ']' || c == '}'

/-- What ends a value: nothing, or a character that may follow one. -/
def Ends (rest : List Char) : Prop := ∀ c ∈ rest.head?, isEnd c = true

/-- What ends digits: nothing, or a character that continues none. -/
def EndsDigits (rest : List Char) : Prop := ∀ c ∈ rest.head?, isAsciiDigit c = false ∧ c ≠ '_'

variable {c : Char} {cs rest : List Char} {digits : Digits}

section Characters

theorem eq_of_isEnd (h : isEnd c = true) :
    c = ' ' ∨ c = '\t' ∨ c = '\n' ∨ c = '#' ∨ c = ',' ∨ c = ']' ∨ c = '}' := by
  simpa [isEnd, isGap, isSpace, or_assoc] using h

theorem isDigitIn_ten (c : Char) : isDigitIn 10 c = isAsciiDigit c := by
  unfold isDigitIn hexValue? isAsciiDigit
  generalize c.toNat = n
  dsimp only
  split_ifs with decimal upper lower
  · exact decide_eq_decide.2 (by omega)
  · exact decide_eq_decide.2 (by omega)
  · exact decide_eq_decide.2 (by omega)
  · exact (decide_eq_false decimal).symm

theorem Ends.endsDigits (h : Ends rest) : EndsDigits rest := by
  intro c mem
  rcases eq_of_isEnd (h c mem) with rfl | rfl | rfl | rfl | rfl | rfl | rfl <;> decide

end Characters

section Digits

theorem skipUnderscore_of_head (h : ∀ c ∈ cs.head?, c ≠ '_') : skipUnderscore 10 cs = cs := by
  unfold skipUnderscore
  split
  · exact absurd rfl (h '_' rfl)
  · rfl

/-- Digits are read up to something that ends them. -/
theorem readDigits_append (digits : ∀ c ∈ cs, isAsciiDigit c = true) (ends : EndsDigits rest) :
    readDigits 10 (cs ++ rest) = (cs, rest) := by
  induction cs with
  | nil =>
      cases rest with
      | nil => rw [List.nil_append, readDigits]
      | cons c rest =>
          have other := (ends c rfl).1
          rw [List.nil_append, readDigits, isDigitIn_ten, other]
          rfl
  | cons c cs ih =>
      obtain ⟨first, others⟩ := List.forall_mem_cons.1 digits
      have plain : ∀ d ∈ (cs ++ rest).head?, d ≠ '_' := by
        cases cs with
        | nil => exact fun d mem => (ends d mem).2
        | cons d cs =>
            rintro _ ⟨⟩ rfl
            exact absurd (others '_' List.mem_cons_self) (by decide)
      rw [List.cons_append, readDigits, isDigitIn_ten, first, skipUnderscore_of_head plain,
        ih others]
      rfl

theorem Digits.readDigits (digits : Digits) (ends : EndsDigits rest) :
    readDigits 10 (digits.chars ++ rest) = (digits.chars, rest) :=
  readDigits_append digits.digits ends

theorem Digits.exists_eq_cons (digits : Digits) :
    ∃ c cs, digits.chars = c :: cs ∧ isAsciiDigit c = true := by
  obtain ⟨c, cs, same⟩ := List.exists_cons_of_ne_nil digits.nonempty
  exact ⟨c, cs, same, digits.digits c (same ▸ List.mem_cons_self)⟩

theorem Digits.isEmpty (digits : Digits) : digits.chars.isEmpty = false :=
  Bool.eq_false_iff.2 fun empty => digits.nonempty (List.isEmpty_iff.1 empty)

end Digits

section Numerals

open PlainNumeral (signChars fractionChars exponentChars exponentValue)

variable {exponent : Option (Bool × Digits)} {fraction : Option Digits}

/-- A sign in front of digits is read. -/
theorem readSign_signChars (negative : Bool) (digits : Digits) (rest : List Char) :
    readSign (signChars negative ++ (digits.chars ++ rest)) = (negative, digits.chars ++ rest) := by
  cases negative with
  | true => rfl
  | false =>
      obtain ⟨c, cs, same, digit⟩ := digits.exists_eq_cons
      rw [same]
      show readSign (c :: _) = _
      unfold readSign
      split
      · rename_i first
        cases first
        cases digit
      · rename_i first
        cases first
        cases digit
      · rfl

theorem readExponent?_exponentChars (ends : Ends rest) :
    readExponent? (exponentChars exponent ++ rest) =
      exponent.map fun (negative, digits) => (exponentValue negative digits, rest) := by
  cases exponent with
  | none =>
      cases rest with
      | nil => rfl
      | cons c rest =>
          rcases eq_of_isEnd (ends c rfl) with rfl | rfl | rfl | rfl | rfl | rfl | rfl <;> rfl
  | some exponent =>
      obtain ⟨negative, digits⟩ := exponent
      show readExponent? ('e' :: ((signChars negative ++ digits.chars) ++ rest)) = _
      rw [List.append_assoc, readExponent?, if_pos (.inl rfl), readSign_signChars]
      dsimp only
      rw [digits.readDigits ends.endsDigits]
      dsimp only
      rw [digits.isEmpty]
      rfl

theorem endsDigits_exponentChars (ends : Ends rest) :
    EndsDigits (exponentChars exponent ++ rest) := by
  cases exponent with
  | none => exact ends.endsDigits
  | some exponent =>
      rintro _ ⟨⟩
      decide

theorem readFraction?_fractionChars (ends : Ends rest) :
    readFraction? (fractionChars fraction ++ (exponentChars exponent ++ rest)) =
      fraction.map fun digits => (digits.chars, exponentChars exponent ++ rest) := by
  cases fraction with
  | none =>
      cases exponent with
      | none =>
          cases rest with
          | nil => rfl
          | cons c rest =>
              rcases eq_of_isEnd (ends c rfl) with rfl | rfl | rfl | rfl | rfl | rfl | rfl <;> rfl
      | some exponent => rfl
  | some digits =>
      show readFraction? ('.' :: (digits.chars ++ (exponentChars exponent ++ rest))) = _
      rw [readFraction?, digits.readDigits (endsDigits_exponentChars ends)]
      dsimp only
      rw [digits.isEmpty]
      rfl

theorem endsDigits_fractionChars (ends : Ends rest) :
    EndsDigits (fractionChars fraction ++ (exponentChars exponent ++ rest)) := by
  cases fraction with
  | none => exact endsDigits_exponentChars ends
  | some digits =>
      rintro _ ⟨⟩
      decide

namespace PlainNumeral

variable (numeral : PlainNumeral)

theorem readWhole?_append (ends : EndsDigits rest) :
    readWhole? (numeral.whole.chars ++ rest) = some (numeral.whole.chars, rest) := by
  obtain ⟨c, cs, same, -⟩ := numeral.whole.exists_eq_cons
  by_cases zero : c = '0'
  · have single := numeral.leading (by rw [same, zero]; rfl)
    rw [single]
    rfl
  · have read := numeral.whole.readDigits ends
    rw [same] at read ⊢
    unfold readWhole?
    split
    · rename_i first
      cases first
      exact absurd rfl zero
    · rw [read]
      rfl

/-- A number is read as the number that was written. -/
theorem readNumeral?_append (ends : Ends rest) :
    readNumeral? (numeral.chars ++ rest) = some (numeral.numeral, rest) := by
  have assoc : numeral.chars ++ rest = signChars numeral.negative ++ (numeral.whole.chars ++
      (fractionChars numeral.fraction ++ (exponentChars numeral.exponent ++ rest))) := by
    simp only [chars, List.append_assoc]
  rw [assoc, readNumeral?, readSign_signChars]
  dsimp only
  rw [numeral.readWhole?_append (endsDigits_fractionChars ends), Option.bind_eq_bind,
    Option.bind_some]
  dsimp only
  have behind : ((readFraction? (fractionChars numeral.fraction ++
      (exponentChars numeral.exponent ++ rest))).elim (fractionChars numeral.fraction ++
        (exponentChars numeral.exponent ++ rest)) (·.2)) =
          exponentChars numeral.exponent ++ rest := by
    rw [readFraction?_fractionChars ends]
    cases numeral.fraction <;> rfl
  rw [behind, readFraction?_fractionChars ends, readExponent?_exponentChars ends,
    PlainNumeral.numeral, Option.map_map, Option.map_map]
  cases numeral.exponent <;> rfl

end PlainNumeral

end Numerals

section Moments

/-- A fixed number of digits is taken from the digits in front. -/
theorem readFixed?_append {width n : Nat} {taken : List Char}
    (ends : ∀ c ∈ rest.head?, isAsciiDigit c = false)
    (read : readFixed? width (cs ++ rest) = some (n, taken)) : taken = cs.drop width ++ rest := by
  unfold readFixed? at read
  dsimp only at read
  split at read
  · rename_i fixed
    obtain ⟨full, digits⟩ := fixed
    cases read
    apply List.drop_append_of_le_length
    refine Nat.le_of_not_lt fun few => ?_
    -- Otherwise the first character of the rest would be among the digits.
    cases rest with
    | nil =>
        rw [List.append_nil, List.length_take] at full
        omega
    | cons c rest =>
        have mem : c ∈ (cs ++ c :: rest).take width := by
          rw [List.take_append, List.mem_append]
          refine .inr ?_
          obtain ⟨k, more⟩ : ∃ k, width - cs.length = k + 1 := ⟨width - cs.length - 1, by omega⟩
          rw [more, List.take_succ_cons]
          exact List.mem_cons_self
        exact absurd (List.all_eq_true.1 digits c mem) (Bool.eq_false_iff.1 (ends c rfl))
  · cases read

theorem expect?_append {mark : Char} (digits : ∀ c ∈ cs, isAsciiDigit c = true)
    (strange : isAsciiDigit mark = false) (other : ∀ c ∈ rest.head?, c ≠ mark) :
    expect? mark (cs ++ rest) = none := by
  cases cs with
  | cons c cs =>
      refine if_neg ?_
      rintro rfl
      exact absurd (digits c List.mem_cons_self) (Bool.eq_false_iff.1 strange)
  | nil =>
      cases rest with
      | nil => rfl
      | cons c rest => exact if_neg (other c rfl)

/-- Digits start no date and no time unless the mark of one follows them. -/
theorem readMoment?_append (digits : ∀ c ∈ cs, isAsciiDigit c = true)
    (ends : ∀ c ∈ rest.head?, isAsciiDigit c = false ∧ c ≠ '-' ∧ c ≠ ':') :
    readMoment? (cs ++ rest) = none := by
  have stops (c) (mem : c ∈ rest.head?) := (ends c mem).1
  have marked (mark : Char) {width n : Nat} {taken : List Char}
      (read : readFixed? width (cs ++ rest) = some (n, taken)) (strange : isAsciiDigit mark = false)
      (other : ∀ c ∈ rest.head?, c ≠ mark) : expect? mark taken = none := by
    rw [readFixed?_append stops read]
    exact expect?_append (fun c mem => digits c (List.mem_of_mem_drop mem)) strange other
  have date : readDateForm? (cs ++ rest) = none := by
    unfold readDateForm?
    cases read : readFixed? 4 (cs ++ rest) with
    | none => rfl
    | some found =>
        have none := marked '-' read rfl fun c mem => (ends c mem).2.1
        simp [none]
  have time : skipTime? (cs ++ rest) = none := by
    unfold skipTime? skipPair?
    cases read : readFixed? 2 (cs ++ rest) with
    | none => rfl
    | some found =>
        have none := marked ':' read rfl fun c mem => (ends c mem).2.2
        simp only [Option.bind_eq_bind, Option.bind_some]
        split
        · simp [none]
        · rfl
  rw [readMoment?, date, time]
  rfl

theorem readFixed?_of_head {width : Nat} (other : isAsciiDigit c = false) :
    readFixed? (width + 1) (c :: rest) = none := by
  refine if_neg fun fixed => ?_
  have digits := fixed.2
  rw [List.take_succ_cons, List.all_cons, other] at digits
  cases digits

/-- Nothing that starts with another character than a digit is a date or a time. -/
theorem readMoment?_of_head (other : isAsciiDigit c = false) : readMoment? (c :: rest) = none := by
  have date : readDateForm? (c :: rest) = none := by
    rw [readDateForm?, readFixed?_of_head other]
    rfl
  have time : skipTime? (c :: rest) = none := by
    rw [skipTime?, skipPair?, readFixed?_of_head other]
    rfl
  rw [readMoment?, date, time]
  rfl

end Moments

section Scalars

open PlainNumeral (signChars fractionChars exponentChars)

variable {numeral : PlainNumeral}

/-- What stands behind the whole part of a number: a point, the mark of an exponent, or the end. -/
theorem PlainNumeral.head_behind_whole (ends : Ends rest) : ∀ c ∈ (fractionChars numeral.fraction ++
    (exponentChars numeral.exponent ++ rest)).head?, c = '.' ∨ c = 'e' ∨ isEnd c = true := by
  intro c mem
  cases fraction : numeral.fraction with
  | some digits =>
      rw [fraction] at mem
      cases mem
      exact .inl rfl
  | none =>
      cases exponent : numeral.exponent with
      | some exponent =>
          rw [fraction, exponent] at mem
          cases mem
          exact .inr (.inl rfl)
      | none =>
          rw [fraction, exponent] at mem
          exact .inr (.inr (ends c mem))

/-- No decimal number is taken for a date or a time. -/
theorem PlainNumeral.readMoment?_append (ends : Ends rest) :
    readMoment? (numeral.chars ++ rest) = none := by
  simp only [chars, List.append_assoc]
  cases numeral.negative with
  | true => exact readMoment?_of_head rfl
  | false =>
      apply Toml.readMoment?_append numeral.whole.digits
      intro c mem
      rcases numeral.head_behind_whole ends c mem with rfl | rfl | last
      · decide
      · decide
      · rcases eq_of_isEnd last with rfl | rfl | rfl | rfl | rfl | rfl | rfl <;> decide

/-- No decimal number is taken for one in another base. -/
theorem PlainNumeral.readBased?_append (ends : Ends rest) :
    readBased? (numeral.chars ++ rest) = none := by
  simp only [chars, List.append_assoc]
  cases numeral.negative with
  | true => rfl
  | false =>
      obtain ⟨c, cs, same, -⟩ := numeral.whole.exists_eq_cons
      have behind := numeral.head_behind_whole ends
      generalize fractionChars _ ++ _ = after at behind
      by_cases zero : c = '0'
      · rw [numeral.leading (by rw [same, zero]; rfl)]
        cases after with
        | nil => rfl
        | cons d after =>
            rcases behind d rfl with rfl | rfl | last
            · rfl
            · rfl
            · rcases eq_of_isEnd last with rfl | rfl | rfl | rfl | rfl | rfl | rfl <;> rfl
      · rw [same]
        show readBased? (c :: _) = none
        unfold readBased?
        split
        · rename_i first
          exact absurd (List.cons.inj first).1 zero
        · rfl

/-- A decimal number is read as what it stands for. -/
theorem PlainNumeral.readScalar_append (ends : Ends rest) :
    readScalar (numeral.chars ++ rest) = numeral.numeral.value.map (·, rest) := by
  rw [readScalar, numeral.readMoment?_append ends, numeral.readBased?_append ends,
    numeral.readNumeral?_append ends]

theorem readWhole?_of_head (other : isAsciiDigit c = false) : readWhole? (c :: rest) = none := by
  unfold readWhole?
  split
  · rename_i first
    cases first
    cases other
  · rw [readDigits, isDigitIn_ten, other]
    rfl

/-- What starts no date, no time and no number is an infinity or NaN, or malformed. -/
theorem readScalar_of_special (moment : readMoment? cs = none) (based : readBased? cs = none)
    (whole : readWhole? (readSign cs).2 = none) :
    readScalar cs = orMalformed (readSpecial? cs) := by
  have number : readNumeral? cs = none := by
    show (readWhole? (readSign cs).2).bind _ = none
    rw [whole, Option.bind_none]
  rw [readScalar, moment, based, number]

theorem readScalar_infinity (negative : Bool) :
    readScalar (signChars negative ++ ('i' :: 'n' :: 'f' :: rest)) =
      .ok (.real (.infinite negative), rest) := by
  have whole : readWhole? ('i' :: 'n' :: 'f' :: rest) = none := readWhole?_of_head rfl
  cases negative with
  | true => exact readScalar_of_special (readMoment?_of_head rfl) rfl whole
  | false => exact readScalar_of_special (readMoment?_of_head rfl) rfl whole

theorem readScalar_nan : readScalar ('n' :: 'a' :: 'n' :: rest) = .ok (.real .nan, rest) := by
  have whole : readWhole? ('n' :: 'a' :: 'n' :: rest) = none := readWhole?_of_head rfl
  exact readScalar_of_special (readMoment?_of_head rfl) rfl whole

end Scalars

end Reckoner.Toml
