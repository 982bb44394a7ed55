import Reckoner.Proofs.Decimal.FewDigits

/-!
# The endings of written numbers

A number is written as an integer exactly when it is a small one.  The text of any other number has a
point or the mark of an exponent in it, and does not end in a point and a zero, because the digits
behind a point are trimmed.

## Implementation notes

The form of whole numbers that ends in `.0` belongs to the layout, but is never reached: below
`10 ^ 16` a decimal without a fraction is read as a whole number.
-/

namespace Reckoner

variable {cs digits front : List Char} {c last : Char} {d : Decimal}

section Texts

/-- The text of an integer: digits, behind a minus sign or not. -/
def IsIntegerText (cs : List Char) : Prop :=
  ∃ negative digits, cs = Layout.sign negative ++ digits ∧ digits ≠ [] ∧
    ∀ c ∈ digits, '0' ≤ c ∧ c ≤ '9'

/-- The text ends in a point and a zero. -/
def EndsWhole (cs : List Char) : Prop := ['.', '0'] <:+ cs

instance (cs : List Char) : Decidable (EndsWhole cs) :=
  inferInstanceAs (Decidable (['.', '0'] <:+ cs))

theorem IsIntegerText.mem (h : IsIntegerText cs) (mem : c ∈ cs) :
    c = '-' ∨ ('0' ≤ c ∧ c ≤ '9') := by
  obtain ⟨negative, digits, rfl, -, all⟩ := h
  rcases List.mem_append.1 mem with sign | digit
  · cases negative with
    | false => cases sign
    | true => exact .inl (List.mem_singleton.1 sign)
  · exact .inr (all c digit)

theorem not_endsWhole_of_last (nonzero : last ≠ '0') : ¬EndsWhole (front ++ [last]) := by
  rintro ⟨start, same⟩
  have ends := congrArg List.getLast? same
  simp at ends
  exact nonzero ends.symm

theorem not_endsWhole_of_digits (two : 2 ≤ digits.length) (all : ∀ c ∈ digits, '0' ≤ c ∧ c ≤ '9') :
    ¬EndsWhole (front ++ digits) := by
  intro ends
  have inner := List.suffix_of_suffix_length_le ends (List.suffix_append front digits) two
  exact absurd (all '.' (inner.subset List.mem_cons_self)) (by decide)

/-- A sign in front does not change the ending. -/
theorem not_endsWhole_sign (negative : Bool) (h : ¬EndsWhole cs) :
    ¬EndsWhole (Layout.sign negative ++ cs) := by
  cases negative with
  | false => exact h
  | true =>
      intro ends
      rcases List.suffix_cons_iff.1 ends with same | inner
      · cases same
      · exact h inner

end Texts

section Digits

/-- The digits of a number end in its last digit. -/
theorem exists_decimalDigits_eq (n : Nat) :
    ∃ front, decimalDigits n = front ++ [digitChar (n % 10)] := by
  rw [decimalDigits]
  split
  case isTrue small => exact ⟨[], by rw [Nat.mod_eq_of_lt small, List.nil_append]⟩
  case isFalse => exact ⟨_, rfl⟩

theorem digitChar_ne_zero : ∀ n < 10, n ≠ 0 → digitChar n ≠ '0' := by
  decide

/-- A trimmed decimal does not end in a zero. -/
theorem Decimal.coefficient_trimmed_mod_ten (nonzero : d.coefficient ≠ 0) :
    d.trimmed.coefficient % 10 ≠ 0 := by
  fun_induction trimmed d with
  | case1 d zero => exact absurd zero nonzero
  | case2 d _ divisible ih => exact ih (show d.coefficient / 10 ≠ 0 by omega)
  | case3 d _ trimmed => exact trimmed

end Digits

namespace Layout

variable {layout : Layout}

/-- Digits that go on behind the point end as they end. -/
theorem exists_positional_eq (marked : Bool) (last : Char) {leading : Int}
    (fraction : leading < front.length) : ∃ before behind,
      positional marked (front ++ [last]) leading = before ++ '.' :: (behind ++ [last]) := by
  unfold positional
  dsimp only
  split
  case isTrue small => exact ⟨['0'], List.replicate (-leading - 1).toNat '0' ++ front, by simp⟩
  case isFalse large =>
    have inside : leading.toNat + 1 ≤ front.length := by omega
    rw [if_neg (by rw [List.length_append, List.length_singleton]; omega),
      List.drop_append_of_le_length inside]
    exact ⟨_, front.drop (leading.toNat + 1), rfl⟩

/-- A text with an exponent ends in at least two digits of the exponent. -/
theorem exists_scientific_eq (leading : Int) (nonempty : digits ≠ []) :
    ∃ front behind, scientific digits leading = front ++ behind ∧ 2 ≤ behind.length ∧
      ∀ c ∈ behind, '0' ≤ c ∧ c ≤ '9' := by
  obtain ⟨front, marked⟩ : ∃ front, scientific digits leading = front ++ exponentMark leading := by
    match digits with
    | [] => exact absurd rfl nonempty
    | [digit] => exact ⟨[digit], rfl⟩
    | digit :: other :: others => exact ⟨digit :: '.' :: other :: others, rfl⟩
  refine ⟨front ++ ['e', if leading < 0 then '-' else '+'],
    List.replicate (2 - (decimalDigits leading.natAbs).length) '0' ++ decimalDigits leading.natAbs,
    ?_, ?_, isDigit_exponentDigits _ _⟩
  · rw [marked, exponentMark, List.append_assoc]
    rfl
  · rw [List.length_append, List.length_replicate]
    omega

/-- Unless it is a whole number in positional form, a decimal is written with a point or an exponent
and does not end in a point and a zero. -/
theorem decimalText_fraction (nonzero : d.coefficient ≠ 0)
    (fraction : layout.leastPositional ≤ d.leadingExponent ∧
      d.leadingExponent < layout.positionalEnd → d.trimmed.exponent < 0) :
    ('.' ∈ layout.decimalText d ∨ 'e' ∈ layout.decimalText d) ∧
      ¬EndsWhole (layout.decimalText d) := by
  have leading := leading_eq nonzero
  rw [decimalText, leading]
  obtain ⟨front, digits⟩ := exists_decimalDigits_eq d.trimmed.coefficient
  split
  case isTrue window =>
    have behind := fraction window
    rw [digits, List.length_append, List.length_singleton] at leading
    have inside : d.leadingExponent < (front.length : Int) := by omega
    obtain ⟨before, behind, text⟩ := exists_positional_eq layout.marksWhole
      (digitChar (d.trimmed.coefficient % 10)) inside
    have last := digitChar_ne_zero _ (Nat.mod_lt _ (by decide))
      (Decimal.coefficient_trimmed_mod_ten nonzero)
    rw [digits, text]
    refine ⟨.inl (by simp), ?_⟩
    rw [← List.cons_append, ← List.append_assoc]
    exact not_endsWhole_of_last last
  case isFalse =>
    have nonempty := decimalDigits_ne_nil d.trimmed.coefficient
    obtain ⟨numeral, rest, text, -⟩ :=
      scientific_eq d.leadingExponent nonempty (isDigit_decimalDigits _)
    obtain ⟨front, behind, text', two, all⟩ := exists_scientific_eq d.leadingExponent nonempty
    refine ⟨.inr (by rw [text]; simp), ?_⟩
    rw [text']
    exact not_endsWhole_of_digits two all

end Layout

section Whole

variable {m : Magnitude} {negative : Bool}

/-- Below the end of the range, a decimal without a fraction is read as a whole number: the gaps
divide one, or are two wide. -/
theorem Decimal.dvd_units_of_integer (same : d.rank = m.rank) {n : ℤ} (integer : d.value = n)
    (small : m.rank < Binary64.endMagnitude.rank) : unitsPerOne ∣ m.units := by
  obtain ⟨j, gaps⟩ := exists_mul_gapAt_eq_two small
  rw [Magnitude.dvd_units_iff]
  cases j with
  | zero =>
      obtain ⟨k, steps⟩ := exists_valueAt_eq m.rank
      refine ⟨k * 2, ?_⟩
      rw [pow_zero, one_mul] at gaps
      rw [Magnitude.value, steps, gaps]
      push_cast
      rfl
  | succ j =>
      have one : 2 ^ j * gapAt m.rank = 1 := by
        rw [pow_succ] at gaps
        linarith
      have multiple : d.value = (n * 2 ^ j : ℤ) * gapAt d.rank := by
        rw [integer, same]
        push_cast
        rw [mul_assoc, one, mul_one]
      have exact := valueAt_rank_of_eq_mul multiple
      have nonneg : 0 ≤ n := by exact_mod_cast integer ▸ d.value_nonneg
      refine ⟨n.toNat, ?_⟩
      rw [Magnitude.value, ← same, exact, integer, ← Int.cast_natCast, Int.toNat_of_nonneg nonneg]

namespace Binary64

theorem value_endMagnitude : endMagnitude.value = 10 ^ 16 := by
  have units : unitsAt endMagnitude.rank = 10 ^ 16 * unitsPerOne := by decide +kernel
  rw [Magnitude.value, valueAt, units, div_eq_iff cast_unitsPerOne_pos.ne']
  push_cast
  rfl

/-- The small integers in exact arithmetic. -/
theorem exists_integer_iff : (∃ n : ℤ, (finite negative m).value = n ∧ |n| < 10 ^ 16) ↔
    unitsPerOne ∣ m.units ∧ m.rank < endMagnitude.rank := by
  have size : |(finite negative m).value| = m.value := by
    cases negative <;> simp [abs_of_nonneg m.value_nonneg]
  have small : m.rank < endMagnitude.rank ↔ m.value < 10 ^ 16 := by
    rw [← value_endMagnitude]
    exact strictMono_valueAt.lt_iff_lt.symm
  rw [Magnitude.dvd_units_iff, small]
  constructor
  · rintro ⟨n, value, below⟩
    rw [value, ← Int.cast_abs] at size
    refine ⟨⟨n.natAbs, ?_⟩, ?_⟩
    · rw [← size, ← Int.natCast_natAbs, Int.cast_natCast]
    · rw [← size]
      exact_mod_cast below
  · rintro ⟨⟨k, whole⟩, below⟩
    rw [whole] at below
    refine ⟨if negative then -(k : ℤ) else k, ?_, ?_⟩
    · cases negative <;> simp [whole]
    · have below' : (k : ℤ) < 10 ^ 16 := by exact_mod_cast below
      cases negative <;> simpa using below'

/-- A number that is no small integer is written with a point or an exponent and does not end in a
point and a zero. -/
theorem plainText_fraction (other : ¬(unitsPerOne ∣ m.units ∧ m.rank < endMagnitude.rank)) :
    ('.' ∈ (finite false m).plainText.toList ∨ 'e' ∈ (finite false m).plainText.toList) ∧
      ¬EndsWhole (finite false m).plainText.toList := by
  have nonzero := rank_ne_zero_of_not_whole other
  rw [plainText_of_not_whole other, String.toList_ofList]
  refine Layout.decimalText_fraction (Decimal.coefficient_shortest_ne_zero nonzero) fun window => ?_
  by_contra whole
  have small := ((isPositional_finite.1 ((isPositional_iff_window nonzero).2 window)).resolve_left
    nonzero).2
  obtain ⟨k, exponent⟩ := Int.eq_ofNat_of_zero_le (not_lt.1 whole)
  refine other ⟨Decimal.dvd_units_of_integer (Decimal.rank_shortest nonzero)
    (n := (Decimal.shortest m).trimmed.coefficient * 10 ^ k) ?_ small, small⟩
  rw [← Decimal.value_trimmed, Decimal.value, exponent]
  push_cast
  rw [zpow_natCast]

/-- Exactly the small integers are written as integers. -/
theorem isIntegerText_plainText_iff : IsIntegerText (finite negative m).plainText.toList ↔
    unitsPerOne ∣ m.units ∧ m.rank < endMagnitude.rank := by
  constructor
  · intro integer
    by_contra other
    obtain ⟨marked, -⟩ := plainText_fraction other
    rw [plainText_eq_sign (rank_ne_zero_of_not_whole other), String.toList_ofList] at integer
    rcases marked with point | exponent
    · exact absurd (integer.mem (List.mem_append_right _ point)) (by decide)
    · exact absurd (integer.mem (List.mem_append_right _ exponent)) (by decide)
  · intro whole
    by_cases zero : m.rank = 0
    · rw [plainText_zero zero]
      exact ⟨false, List.replicate 1 '0', rfl, nofun, isDigit_zeros 1⟩
    · rw [plainText_eq_sign zero, plainText_of_whole whole.1 whole.2, String.toList_ofList,
        String.toList_ofList]
      exact ⟨negative, _, rfl, decimalDigits_ne_nil _, isDigit_decimalDigits _⟩

/-- No number is written with a zero alone behind the point. -/
theorem not_endsWhole_plainText (negative : Bool) (m : Magnitude) :
    ¬EndsWhole (finite negative m).plainText.toList := by
  by_cases whole : unitsPerOne ∣ m.units ∧ m.rank < endMagnitude.rank
  · intro ends
    have point : '.' ∈ (finite negative m).plainText.toList := ends.subset List.mem_cons_self
    exact absurd ((isIntegerText_plainText_iff.2 whole).mem point) (by decide)
  · rw [plainText_eq_sign (rank_ne_zero_of_not_whole whole), String.toList_ofList]
    exact not_endsWhole_sign negative (plainText_fraction whole).2

end Binary64

end Whole

end Reckoner
