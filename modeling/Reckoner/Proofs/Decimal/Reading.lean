import Reckoner.Decimal.Reading
import Reckoner.Proofs.Binary64.Rounding
import Reckoner.Proofs.Token.Lexeme

/-!
# Numerals of the expression language are read

Every numeral that scanning can produce is read as an exact decimal, and the number nearest to a
decimal is never NaN.

## Implementation notes

Reading accepts far more than numerals.  `IsPlain` says which characters it leaves as they are, so
that a text of such characters is its own plain form.
-/

namespace Reckoner.Decimal

open Text (isAsciiBlank trim)
open Token (isNumeralDigit isNumeralDigit_iff span_append starts_of_isNumeral)

/-- A character that is kept when a text is reduced to its plain form. -/
structure IsPlain (c : Char) : Prop where
  /-- It stands for itself. -/
  ascii : c.toNat < 128
  /-- It is not dropped at the ends. -/
  notBlank : isAsciiBlank c = false
  /-- It is not dropped between digits. -/
  notUnderscore : c ≠ '_'

section PlainForm

variable {cs : List Char}

theorem mapM_plainChar? (h : ∀ c ∈ cs, c.toNat < 128) : cs.mapM plainChar? = some cs := by
  induction cs with
  | nil => rfl
  | cons c others ih =>
      obtain ⟨ascii, others'⟩ := List.forall_mem_cons.1 h
      rw [List.mapM_cons, ih others', plainChar?, if_pos ascii]
      rfl

theorem trim_eq_self {inClass : Char → Bool} (h : ∀ c ∈ cs, inClass c = false) :
    trim inClass cs = cs := by
  have kept (l : List Char) (h : ∀ c ∈ l, inClass c = false) : l.dropWhile inClass = l := by
    cases l with
    | nil => rfl
    | cons c others => simp [h c List.mem_cons_self]
  rw [trim, kept cs h, kept cs.reverse fun c mem => h c (List.mem_reverse.1 mem),
    List.reverse_reverse]

theorem withoutUnderscores?_eq_some {previous : Char} (h : ∀ c ∈ cs, c ≠ '_') :
    withoutUnderscores? previous cs = some cs := by
  induction cs generalizing previous with
  | nil => rfl
  | cons c others ih =>
      obtain ⟨kept, others'⟩ := List.forall_mem_cons.1 h
      unfold withoutUnderscores?
      rw [if_neg kept, ih others']
      rfl

/-- A text of plain characters is read as it stands. -/
theorem readNumber?_ofList (h : ∀ c ∈ cs, IsPlain c) :
    readNumber? (String.ofList cs) = readNumeral? cs := by
  have form : plainForm? (String.ofList cs) = some cs := by
    rw [plainForm?, String.toList_ofList, mapM_plainChar? fun c mem => (h c mem).ascii]
    change withoutUnderscores? ' ' (trim isAsciiBlank cs) = some cs
    rw [trim_eq_self fun c mem => (h c mem).notBlank,
      withoutUnderscores?_eq_some fun c mem => (h c mem).notUnderscore]
  rw [readNumber?, form]
  rfl

end PlainForm

section Numeral

variable {cs whole fraction : List Char}

/-- The characters of a numeral are digits and points. -/
theorem digit_or_point (h : IsNumeral cs) {c : Char} (mem : c ∈ cs) :
    ('0' ≤ c ∧ c ≤ '9') ∨ c = '.' := by
  rcases h with ⟨_, digits⟩ | ⟨whole, fraction, rfl, _, digits⟩
  · exact .inl (digits c mem)
  · rcases List.mem_append.1 mem with inWhole | inRest
    · exact .inl (digits c (List.mem_append_left _ inWhole))
    · rcases List.mem_cons.1 inRest with point | inFraction
      · exact .inr point
      · exact .inl (digits c (List.mem_append_right _ inFraction))

theorem toNat_of_digit_or_point {c : Char} (h : ('0' ≤ c ∧ c ≤ '9') ∨ c = '.') :
    46 ≤ c.toNat ∧ c.toNat ≤ 57 := by
  rcases h with digit | rfl
  · have := isNumeralDigit_iff.2 digit
    rw [isNumeralDigit, decide_eq_true_iff] at this
    omega
  · decide

theorem isPlain_of_digit_or_point {c : Char} (h : ('0' ≤ c ∧ c ≤ '9') ∨ c = '.') : IsPlain c := by
  have range := toNat_of_digit_or_point h
  refine ⟨by omega, ?_, ?_⟩
  · simp only [isAsciiBlank, Bool.or_eq_false_iff, beq_eq_false_iff_ne, decide_eq_false_iff_not]
    constructor
    · rintro rfl
      exact absurd range (by decide)
    · omega
  · rintro rfl
    exact absurd range (by decide)

theorem isPlain_of_isNumeral (h : IsNumeral cs) : ∀ c ∈ cs, IsPlain c :=
  fun _ mem => isPlain_of_digit_or_point (digit_or_point h mem)

section Decimal

variable {tail : List Char} {exponent : Int}

/-- What is read as an exponent goes on neither with a digit nor with a point. -/
theorem apart_of_readExponent? (read : readExponent? tail = some exponent) :
    ∀ c rest, tail = c :: rest → isAsciiDigit c = false ∧ c ≠ '.' := by
  rintro c rest rfl
  by_cases mark : c = 'e' ∨ c = 'E'
  · rcases mark with rfl | rfl <;> decide
  · rw [readExponent?, if_neg mark] at read
    cases read

/-- Digits in front of an exponent, or at the end, are read as a whole number. -/
theorem readDecimal?_digits_append (nonempty : whole ≠ []) (h : ∀ c ∈ whole, '0' ≤ c ∧ c ≤ '9')
    (read : readExponent? tail = some exponent) :
    readDecimal? (whole ++ tail) = some ⟨digitsValue whole, exponent⟩ := by
  have apart := apart_of_readExponent? read
  obtain ⟨taken, dropped⟩ : (whole ++ tail).takeWhile isAsciiDigit = whole ∧
      (whole ++ tail).dropWhile isAsciiDigit = tail :=
    span_append (fun c mem => isNumeralDigit_iff.2 (h c mem))
      fun c rest found => (apart c rest found).1
  have noPoint : afterPoint? tail = none := by
    unfold afterPoint?
    split
    · exact absurd rfl (apart _ _ rfl).2
    · rfl
  simp [readDecimal?, taken, dropped, noPoint, read, nonempty]

/-- Each digit between a point and an exponent, or the end, lowers the power of ten by one. -/
theorem readDecimal?_point_append (nonempty : whole ++ fraction ≠ [])
    (h : ∀ c ∈ whole ++ fraction, '0' ≤ c ∧ c ≤ '9') (read : readExponent? tail = some exponent) :
    readDecimal? (whole ++ '.' :: fraction ++ tail) =
      some ⟨digitsValue (whole ++ fraction), exponent - fraction.length⟩ := by
  obtain ⟨taken, dropped⟩ : (whole ++ '.' :: (fraction ++ tail)).takeWhile isAsciiDigit = whole ∧
      (whole ++ '.' :: (fraction ++ tail)).dropWhile isAsciiDigit = '.' :: (fraction ++ tail) := by
    refine span_append (fun c mem => isNumeralDigit_iff.2 (h c (List.mem_append_left _ mem))) ?_
    rintro _ _ ⟨⟩
    decide
  obtain ⟨taken', dropped'⟩ : (fraction ++ tail).takeWhile isAsciiDigit = fraction ∧
      (fraction ++ tail).dropWhile isAsciiDigit = tail :=
    span_append (fun c mem => isNumeralDigit_iff.2 (h c (List.mem_append_right _ mem)))
      fun c rest found => (apart_of_readExponent? read c rest found).1
  rw [Ne, List.append_eq_nil_iff] at nonempty
  simp [readDecimal?, taken, dropped, afterPoint?, taken', dropped', read, nonempty]

theorem readDecimal?_digits (nonempty : whole ≠ []) (h : ∀ c ∈ whole, '0' ≤ c ∧ c ≤ '9') :
    readDecimal? whole = some ⟨digitsValue whole, 0⟩ := by
  have read := readDecimal?_digits_append nonempty h (show readExponent? [] = some 0 from rfl)
  rwa [List.append_nil] at read

theorem readDecimal?_point (nonempty : whole ++ fraction ≠ [])
    (h : ∀ c ∈ whole ++ fraction, '0' ≤ c ∧ c ≤ '9') :
    readDecimal? (whole ++ '.' :: fraction) =
      some ⟨digitsValue (whole ++ fraction), -fraction.length⟩ := by
  have read := readDecimal?_point_append nonempty h (show readExponent? [] = some 0 from rfl)
  rwa [List.append_nil, Int.zero_sub] at read

end Decimal

theorem readDecimal?_of_isNumeral (h : IsNumeral cs) :
    ∃ decimal, readDecimal? cs = some decimal := by
  rcases h with ⟨nonempty, digits⟩ | ⟨whole, fraction, rfl, nonempty, digits⟩
  · exact ⟨_, readDecimal?_digits nonempty digits⟩
  · exact ⟨_, readDecimal?_point nonempty digits⟩

theorem toLower_of_digit_or_point {c : Char} (h : ('0' ≤ c ∧ c ≤ '9') ∨ c = '.') :
    c.toLower = c := by
  have range := toNat_of_digit_or_point h
  have low : ¬(c.val ≥ 'A'.val) := by
    change ¬('A'.toNat ≤ c.toNat)
    exact Nat.not_le_of_lt (Nat.lt_of_le_of_lt range.2 (by decide))
  exact dif_neg fun upper => low upper.1

section Unsigned

variable {c : Char} {others : List Char} (start : ('0' ≤ c ∧ c ≤ '9') ∨ c = '.')
include start

theorem readSign_of_unsigned : readSign (c :: others) = (false, c :: others) := by
  unfold readSign
  split
  · rename_i minus
    cases minus
    exact absurd start (by decide)
  · rename_i plus
    cases plus
    exact absurd start (by decide)
  · rfl

/-- No name of a special number begins with a digit or a point. -/
theorem readSpecial?_of_unsigned (negative : Bool) :
    readSpecial? negative (String.ofList ((c :: others).map Char.toLower)) = none := by
  have unnamed (letter : Char) (letters : List Char)
      (apart : ¬(('0' ≤ letter ∧ letter ≤ '9') ∨ letter = '.')) :
      String.ofList ((c :: others).map Char.toLower) ≠ String.ofList (letter :: letters) := by
    intro same
    have heads := (List.cons.inj (String.ofList_injective same)).1
    rw [toLower_of_digit_or_point start] at heads
    exact apart (heads ▸ start)
  rw [readSpecial?, if_neg, if_neg]
  · exact unnamed 'n' ['a', 'n'] (by decide)
  · rintro (short | long)
    · exact unnamed 'i' ['n', 'f'] (by decide) short
    · exact unnamed 'i' ['n', 'f', 'i', 'n', 'i', 't', 'y'] (by decide) long

end Unsigned

/-- A numeral has no sign and names no special number. -/
theorem readNumeral?_of_isNumeral (h : IsNumeral cs) :
    readNumeral? cs = (readDecimal? cs).map (toBinary64 false) := by
  obtain ⟨c, others, rfl, _⟩ := starts_of_isNumeral h
  have start := digit_or_point h List.mem_cons_self
  rw [readNumeral?, readSign_of_unsigned start]
  dsimp only
  rw [readSpecial?_of_unsigned start, Option.none_or]

end Numeral

theorem isNaN_toBinary64 {negative : Bool} {decimal : Decimal} :
    (decimal.toBinary64 negative).isNaN = false := by
  unfold toBinary64
  split
  · rfl
  · split
    · rfl
    · exact Binary64.isNaN_ofRatio

/-- A numeral is read as the number nearest to its decimal. -/
theorem readNumber?_of_isNumeral {cs : List Char} (h : IsNumeral cs) :
    ∃ decimal, readDecimal? cs = some decimal ∧
      readNumber? (String.ofList cs) = some (decimal.toBinary64 false) := by
  obtain ⟨decimal, read⟩ := readDecimal?_of_isNumeral h
  refine ⟨decimal, read, ?_⟩
  rw [readNumber?_ofList (isPlain_of_isNumeral h), readNumeral?_of_isNumeral h, read,
    Option.map_some]

end Reckoner.Decimal
