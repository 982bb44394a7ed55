import Reckoner.Proofs.Decimal.Nearest
import Reckoner.Proofs.Decimal.PlainText

/-!
# Written numbers are read

Every text that is written for a number, in whatever form, is a decimal that is read exactly as it
was written, with a sign in front or not.  So the text of a number is read as the number.
-/

namespace Reckoner

open Decimal (IsPlain readDecimal? readExponent? readNumber? readNumeral? readSign withSign)

variable {cs digits : List Char} {v : ℚ} {decimal : Decimal} {negative : Bool}

/-- The text writes a decimal of the given value without a sign. -/
structure Writes (cs : List Char) (v : ℚ) : Prop where
  /-- No character is dropped or replaced. -/
  plain : ∀ c ∈ cs, IsPlain c
  /-- Neither a sign nor a letter is in front. -/
  starts : ∃ c others, cs = c :: others ∧ (('0' ≤ c ∧ c ≤ '9') ∨ c = '.')
  /-- The whole text is read. -/
  reads : ∃ decimal, readDecimal? cs = some decimal ∧ decimal.value = v

namespace Decimal

/-- The exact value of a numeral. -/
def exactValue? (text : String) : Option ℚ :=
  let (negative, unsigned) := readSign text.toList
  (readDecimal? unsigned).map fun decimal => withSign negative decimal.value

end Decimal

namespace Writes

theorem readSign_append (h : Writes cs v) (negative : Bool) :
    readSign (Layout.sign negative ++ cs) = (negative, cs) := by
  obtain ⟨c, others, rfl, start⟩ := h.starts
  cases negative with
  | false => exact Decimal.readSign_of_unsigned start
  | true => rfl

/-- The exact value of a written decimal is the value that it writes. -/
theorem exactValue?_eq (h : Writes cs v) (negative : Bool) :
    Decimal.exactValue? (String.ofList (Layout.sign negative ++ cs)) =
      some (withSign negative v) := by
  obtain ⟨decimal, read, rfl⟩ := h.reads
  rw [Decimal.exactValue?, String.toList_ofList, h.readSign_append]
  dsimp only
  rw [read, Option.map_some]

/-- A written decimal is read as the number nearest to its value. -/
theorem readNumber?_eq (h : Writes cs decimal.value) (negative : Bool) :
    readNumber? (String.ofList (Layout.sign negative ++ cs)) =
      some (decimal.toBinary64 negative) := by
  have plain : ∀ c ∈ Layout.sign negative ++ cs, IsPlain c := by
    rw [List.forall_mem_append]
    refine ⟨?_, h.plain⟩
    cases negative with
    | false => exact nofun
    | true => exact List.forall_mem_singleton.2 ⟨by decide, by decide, by decide⟩
  obtain ⟨decimal', read, same⟩ := h.reads
  obtain ⟨c, others, rfl, start⟩ := h.starts
  rw [Decimal.readNumber?_ofList plain, readNumeral?, h.readSign_append]
  dsimp only
  rw [Decimal.readSpecial?_of_unsigned start, Option.none_or, read, Option.map_some,
    Decimal.toBinary64_congr same]

end Writes

theorem Denotes.writes (h : Denotes cs v) : Writes cs v := by
  obtain ⟨numeral, reads⟩ := h
  obtain ⟨c, others, rfl, _⟩ := Token.starts_of_isNumeral numeral
  exact ⟨Decimal.isPlain_of_isNumeral numeral,
    ⟨c, others, rfl, Decimal.digit_or_point numeral List.mem_cons_self⟩, reads⟩

namespace Layout

theorem isDigit_exponentDigits (k n : Nat) :
    ∀ c ∈ List.replicate k '0' ++ decimalDigits n, '0' ≤ c ∧ c ≤ '9' :=
  List.forall_mem_append.2 ⟨isDigit_zeros k, isDigit_decimalDigits n⟩

/-- An exponent is read as it was written. -/
theorem readExponent?_exponentMark (e : Int) : readExponent? (exponentMark e) = some e := by
  have digits := isDigit_exponentDigits (2 - (decimalDigits e.natAbs).length) e.natAbs
  have value : digitsValue (List.replicate (2 - (decimalDigits e.natAbs).length) '0' ++
      decimalDigits e.natAbs) = e.natAbs :=
    (digitsValue_zeros_append _).trans (digitsValue_decimalDigits _)
  have nonempty : List.replicate (2 - (decimalDigits e.natAbs).length) '0' ++
      decimalDigits e.natAbs ≠ [] :=
    List.append_ne_nil_of_right_ne_nil _ (decimalDigits_ne_nil _)
  unfold exponentMark
  dsimp only
  generalize List.replicate (2 - (decimalDigits e.natAbs).length) '0' ++
    decimalDigits e.natAbs = ds at digits value nonempty ⊢
  have all : ds.all Decimal.isAsciiDigit = true :=
    List.all_eq_true.2 fun c mem => Token.isNumeralDigit_iff.2 (digits c mem)
  rw [readExponent?, if_pos (.inl rfl)]
  by_cases negative : e < 0
  · rw [if_pos negative, readSign]
    simp [nonempty, all, value, abs_of_neg negative]
  · rw [if_neg negative, readSign]
    simp [nonempty, all, value, abs_of_nonneg (not_lt.1 negative)]

theorem isPlain_exponentMark (e : Int) : ∀ c ∈ exponentMark e, IsPlain c := by
  have sign : IsPlain (if e < 0 then '-' else '+') := by
    split <;> exact ⟨by decide, by decide, by decide⟩
  unfold exponentMark
  simp only [List.forall_mem_cons]
  exact ⟨⟨by decide, by decide, by decide⟩, sign, fun c mem =>
    Decimal.isPlain_of_digit_or_point (.inl (isDigit_exponentDigits _ _ c mem))⟩

/-- With an exponent, the first digit has the place value of the leading exponent. -/
theorem writes_scientific (leading : Int) (nonempty : digits ≠ [])
    (h : ∀ c ∈ digits, '0' ≤ c ∧ c ≤ '9') :
    Writes (scientific digits leading)
      (digitsValue digits * 10 ^ (leading + 1 - digits.length)) := by
  have mark := readExponent?_exponentMark leading
  have plain (c : Char) (mem : c ∈ digits) : IsPlain c :=
    Decimal.isPlain_of_digit_or_point (.inl (h c mem))
  match digits with
  | [] => exact absurd rfl nonempty
  | [digit] =>
      refine ⟨List.forall_mem_cons.2 ⟨plain digit List.mem_cons_self, isPlain_exponentMark leading⟩,
        ⟨digit, _, rfl, .inl (h digit List.mem_cons_self)⟩,
        _, Decimal.readDecimal?_digits_append nonempty h mark, ?_⟩
      simp [Decimal.value]
  | digit :: other :: others =>
      have read : readDecimal? ([digit] ++ '.' :: other :: others ++ exponentMark leading) =
          some ⟨digitsValue (digit :: other :: others), leading - (other :: others).length⟩ :=
        Decimal.readDecimal?_point_append (List.cons_ne_nil digit _) h mark
      refine ⟨List.forall_mem_cons.2 ⟨plain digit List.mem_cons_self, List.forall_mem_cons.2
          ⟨Decimal.isPlain_of_digit_or_point (.inr rfl), List.forall_mem_append.2
            ⟨fun c mem => plain c (List.mem_cons_of_mem _ mem), isPlain_exponentMark leading⟩⟩⟩,
        ⟨digit, _, rfl, .inl (h digit List.mem_cons_self)⟩, _, read, ?_⟩
      have place : leading + 1 - ((digit :: other :: others).length : Int) =
          leading - (other :: others).length := by
        rw [List.length_cons, Nat.cast_succ]
        omega
      rw [place]
      rfl

/-- A decimal is written as a text of its value. -/
theorem writes_decimalText {layout : Layout} (marked : layout.marksWhole = true)
    (nonzero : decimal.coefficient ≠ 0) : Writes (layout.decimalText decimal) decimal.value := by
  by_cases window : layout.leastPositional ≤ decimal.leadingExponent ∧
      decimal.leadingExponent < layout.positionalEnd
  · exact (denotes_decimalText marked nonzero window).writes
  · have leading := leading_eq nonzero
    have place : decimal.leadingExponent + 1 -
        ((decimalDigits decimal.trimmed.coefficient).length : Int) = decimal.trimmed.exponent := by
      omega
    have writes := writes_scientific decimal.leadingExponent
      (decimalDigits_ne_nil decimal.trimmed.coefficient) (isDigit_decimalDigits _)
    rw [place, digitsValue_decimalDigits] at writes
    rw [decimalText, leading, if_neg window, ← decimal.value_trimmed]
    exact writes

end Layout

namespace Binary64

variable {magnitude : Magnitude}

/-- The text of a finite number writes the decimal that it shows. -/
theorem writes_plainText (magnitude : Magnitude) :
    Writes (finite false magnitude).plainText.toList (shownDecimal magnitude).value := by
  by_cases positional : (finite false magnitude).IsPositional
  · exact (denotes_plainText positional).writes
  · have other : ¬(unitsPerOne ∣ magnitude.units ∧ magnitude.rank < endMagnitude.rank) :=
      fun whole => positional (isPositional_of_whole whole.1 whole.2)
    rw [shownDecimal, if_neg other, plainText_of_not_whole other, String.toList_ofList]
    exact Layout.writes_decimalText rfl
      (Decimal.coefficient_shortest_ne_zero (rank_ne_zero_of_not_whole other))

theorem plainText_eq_sign (nonzero : magnitude.rank ≠ 0) (negative : Bool) :
    (finite negative magnitude).plainText =
      String.ofList (Layout.sign negative ++ (finite false magnitude).plainText.toList) := by
  cases negative with
  | false =>
      rw [Layout.sign, if_neg Bool.false_ne_true, List.nil_append, String.ofList_toList]
  | true =>
      have unsigned := plainText_negative nonzero
      generalize (finite false magnitude).plainText.toList = cs at unsigned ⊢
      rw [← String.toList_inj, unsigned, String.toList_ofList]
      rfl

/-- The text of a finite number other than zero is read as the number. -/
theorem readNumber?_plainText_finite (nonzero : magnitude.rank ≠ 0) (negative : Bool) :
    readNumber? (finite negative magnitude).plainText = some (finite negative magnitude) := by
  rw [plainText_eq_sign nonzero, (writes_plainText magnitude).readNumber?_eq,
    Decimal.toBinary64_eq_finite (rank_shownDecimal magnitude)]

/-- Zero is written as an integer. -/
theorem shownDecimal_zero (zero : magnitude.rank = 0) : shownDecimal magnitude = ⟨0, 0⟩ := by
  cases (Magnitude.eq_of_rank_eq zero : magnitude = .zero)
  decide +kernel

/-- The exact value of the text of a finite number is that of the decimal that it shows. -/
theorem exactValue?_plainText (negative : Bool) (magnitude : Magnitude) :
    Decimal.exactValue? (finite negative magnitude).plainText =
      some (withSign negative (shownDecimal magnitude).value) := by
  have exact (negative : Bool) := (writes_plainText magnitude).exactValue?_eq negative
  by_cases zero : magnitude.rank = 0
  · have unsigned := exact false
    rw [Layout.sign, if_neg Bool.false_ne_true, List.nil_append, String.ofList_toList,
      plainText_zero zero, shownDecimal_zero zero] at unsigned
    rw [plainText_zero zero, shownDecimal_zero zero, unsigned]
    simp [withSign, Decimal.value]
  · rw [plainText_eq_sign zero, exact]

end Binary64

end Reckoner
