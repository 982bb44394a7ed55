import Reckoner.Expr.Rendering
import Reckoner.Proofs.Binary64.Arithmetic
import Reckoner.Proofs.Decimal.Layout
import Reckoner.Proofs.Decimal.Shortest

/-!
# The texts of literals

Zero and the numbers from `10 ^ (-4)` up to `10 ^ 16` are written as numerals, which are read as the
same numbers.  Other finite numbers are written with an exponent and the infinity as a name.

## Implementation notes

The shortest decimal of a magnitude may lie on the other side of a power of ten than the magnitude
only if the power reads as the magnitude.  So the leading exponent of the shortest decimal tells
magnitudes below the one nearest to a power of ten from the others, once the shortest decimal of
that magnitude is known to be the power itself.
-/

namespace Reckoner

variable {magnitude boundary : Magnitude} {k : Int}

namespace Decimal

/-- A numeral is read as the number nearest to its value. -/
theorem readNumber?_of_denotes {cs : List Char} {decimal : Decimal}
    (h : Denotes cs decimal.value) :
    readNumber? (String.ofList cs) = some (decimal.toBinary64 false) := by
  obtain ⟨numeral, written, read, same⟩ := h
  obtain ⟨decimal', read', result⟩ := readNumber?_of_isNumeral numeral
  cases read.symm.trans read'
  rw [result, toBinary64_congr same]

/-- The magnitude is nearest to a power of ten, which is its shortest decimal. -/
def IsPower (magnitude : Magnitude) (k : Int) : Prop :=
  (⟨1, k⟩ : Decimal).rank = magnitude.rank ∧ shortest magnitude = ⟨1, k⟩

instance : Decidable (IsPower magnitude k) := inferInstanceAs (Decidable (_ ∧ _))

/-- A power of ten separates the shortest decimals of the magnitudes below it from the others. -/
theorem IsPower.le_leadingExponent_iff (h : IsPower boundary k) (nonzero : magnitude.rank ≠ 0) :
    k ≤ (shortest magnitude).leadingExponent ↔ boundary.rank ≤ magnitude.rank := by
  obtain ⟨power, short⟩ := h
  have unit : (⟨1, k⟩ : Decimal).value = 10 ^ k := by simp [value]
  have position := rank_shortest nonzero
  rw [Decimal.le_leadingExponent_iff (coefficient_shortest_ne_zero nonzero), ← unit, ← power]
  constructor
  · intro h
    rw [← position]
    exact rank_le_rank h
  · intro h
    by_contra below
    have least := rank_le_rank (le_of_lt (lt_of_not_ge below))
    rw [position] at least
    have same : magnitude = boundary := Magnitude.eq_of_rank_eq (by omega)
    rw [same, short] at below
    exact below le_rfl

end Decimal

namespace Binary64

/-- The least number that is written without an exponent, except for zero. -/
def positionalLeast : Binary64 := Decimal.toBinary64 false ⟨1, -4⟩

/-- The first number that is too large to be written without an exponent. -/
def positionalEnd : Binary64 := Decimal.toBinary64 false ⟨1, 16⟩

/-- Zero and the numbers in the range that is written without an exponent. -/
def IsPositional (x : Binary64) : Prop :=
  x.eq .zero = true ∨ positionalLeast.le x = true ∧ x.lt positionalEnd = true

/-- The magnitude nearest to `10 ^ (-4)`. -/
def leastMagnitude : Magnitude := ⟨0x3f1a36e2eb1c432d, by decide⟩

/-- The magnitude of `10 ^ 16`. -/
def endMagnitude : Magnitude := ⟨0x4341c37937e08000, by decide⟩

theorem isPower_least_end :
    Decimal.IsPower leastMagnitude (-4) ∧ Decimal.IsPower endMagnitude 16 := by
  decide +kernel

theorem positionalLeast_eq : positionalLeast = .finite false leastMagnitude :=
  Decimal.toBinary64_eq_finite isPower_least_end.1.1 false

theorem positionalEnd_eq : positionalEnd = .finite false endMagnitude :=
  Decimal.toBinary64_eq_finite isPower_least_end.2.1 false

theorem isPositional_finite : (finite false magnitude).IsPositional ↔
    magnitude.rank = 0 ∨
      leastMagnitude.rank ≤ magnitude.rank ∧ magnitude.rank < endMagnitude.rank := by
  rw [IsPositional, positionalLeast_eq, positionalEnd_eq]
  simp [eq, le, lt, place?, place?.signed, zero, Magnitude.zero]

theorem not_isPositional_infinite : ¬(infinite false).IsPositional := by
  rw [IsPositional, positionalLeast_eq, positionalEnd_eq]
  decide

/-- A finite number other than zero is positional when the leading exponent of its shortest decimal
lies in the window. -/
theorem isPositional_iff_window (nonzero : magnitude.rank ≠ 0) :
    (finite false magnitude).IsPositional ↔
      Layout.value.leastPositional ≤ (Decimal.shortest magnitude).leadingExponent ∧
        (Decimal.shortest magnitude).leadingExponent < Layout.value.positionalEnd := by
  have low := isPower_least_end.1.le_leadingExponent_iff nonzero
  have high := isPower_least_end.2.le_leadingExponent_iff nonzero
  rw [isPositional_finite, ← low, ← Nat.not_le, ← high, Int.not_le]
  simp [nonzero, Layout.value]

theorem integerTextEnd_eq : integerTextEnd = .finite false endMagnitude := by
  have rank : (⟨1, 16⟩ : Decimal).rank = endMagnitude.rank := isPower_least_end.2.1
  have numerator : (⟨1, 16⟩ : Decimal).numerator = Nat.pow 10 16 := rfl
  have denominator : (⟨1, 16⟩ : Decimal).denominator = 1 := rfl
  rw [Decimal.rank, numerator, denominator] at rank
  rw [integerTextEnd, ofNat, ofRatio, ofUnits, rank]
  exact dif_pos endMagnitude.rank_lt

theorem lt_integerTextEnd_iff :
    (finite false magnitude).abs.lt integerTextEnd = true ↔
      magnitude.rank < endMagnitude.rank := by
  rw [integerTextEnd_eq]
  simp [abs, lt, place?, place?.signed]

/-- A whole number is the integer nearest to itself. -/
theorem roundHalfEven_of_whole (whole : unitsPerOne ∣ magnitude.units) :
    roundHalfEven magnitude.units unitsPerOne = magnitude.units / unitsPerOne := by
  conv_lhs => rw [← Nat.div_mul_cancel whole]
  exact roundHalfEven_mul unitsPerOne_pos

/-- A finite number is written as the integer nearest to it or in its shortest form. -/
theorem plainText_finite {negative : Bool} :
    (finite negative magnitude).plainText =
      if (finite negative magnitude).isInteger &&
          (finite negative magnitude).abs.lt integerTextEnd then
        integerText (if negative then -(roundHalfEven magnitude.units unitsPerOne : Int)
          else roundHalfEven magnitude.units unitsPerOne)
      else (finite negative magnitude).shortestText := by
  rw [plainText, nearestInteger?]

/-- A whole number below the end of the range is written with its digits alone. -/
theorem plainText_of_whole (whole : unitsPerOne ∣ magnitude.units)
    (small : magnitude.rank < endMagnitude.rank) :
    (finite false magnitude).plainText =
      String.ofList (decimalDigits (magnitude.units / unitsPerOne)) := by
  have text (n : Nat) : integerText n = String.ofList (decimalDigits n) := by
    rw [integerText, if_neg (by omega), Int.natAbs_natCast]
    rfl
  rw [plainText_finite, isInteger_iff.2 whole, lt_integerTextEnd_iff.2 small,
    roundHalfEven_of_whole whole]
  exact text _

/-- Other finite numbers are written in their shortest form. -/
theorem plainText_of_not_whole
    (h : ¬(unitsPerOne ∣ magnitude.units ∧ magnitude.rank < endMagnitude.rank)) :
    (finite false magnitude).plainText =
      String.ofList (Layout.value.decimalText (Decimal.shortest magnitude)) := by
  have other : ((finite false magnitude).isInteger &&
      (finite false magnitude).abs.lt integerTextEnd) ≠ true := by
    rwa [Ne, Bool.and_eq_true, lt_integerTextEnd_iff, isInteger_iff]
  rw [plainText_finite, if_neg other]
  rfl

/-- A whole number has the rank of the decimal of its digits. -/
theorem rank_whole (whole : unitsPerOne ∣ magnitude.units) :
    (⟨magnitude.units / unitsPerOne, 0⟩ : Decimal).rank = magnitude.rank := by
  have own := magnitude.nearestRank_units Nat.one_pos
  rw [Nat.mul_one] at own
  simp only [Decimal.rank, Decimal.numerator, Decimal.denominator, Int.toNat_zero, neg_zero,
    Nat.pow_eq, pow_zero, mul_one, Nat.div_mul_cancel whole, own]

theorem rank_zero : (⟨0, 0⟩ : Decimal).rank = 0 := by
  decide +kernel

/-- Whole numbers below the end of the range lie in the range. -/
theorem isPositional_of_whole (whole : unitsPerOne ∣ magnitude.units)
    (small : magnitude.rank < endMagnitude.rank) : (finite false magnitude).IsPositional := by
  have rank := rank_whole whole
  rw [isPositional_finite]
  generalize magnitude.units / unitsPerOne = n at rank
  rcases Nat.eq_zero_or_pos n with rfl | positive
  · exact .inl (rank.symm.trans rank_zero)
  · have one : (1 : ℚ) ≤ n := by exact_mod_cast positive
    have least : (⟨1, -4⟩ : Decimal).value ≤ (⟨n, 0⟩ : Decimal).value := by
      norm_num [Decimal.value]
      exact le_trans (by norm_num) one
    rw [← isPower_least_end.1.1, ← rank]
    exact .inr ⟨Decimal.rank_le_rank least, rank ▸ small⟩

/-- The decimal whose digits the text of a magnitude shows: an integer that is not too large, or else
the shortest decimal. -/
def shownDecimal (magnitude : Magnitude) : Decimal :=
  if unitsPerOne ∣ magnitude.units ∧ magnitude.rank < endMagnitude.rank then
    ⟨magnitude.units / unitsPerOne, 0⟩
  else Decimal.shortest magnitude

/-- A magnitude that is not written as an integer is not zero. -/
theorem rank_ne_zero_of_not_whole
    (h : ¬(unitsPerOne ∣ magnitude.units ∧ magnitude.rank < endMagnitude.rank)) :
    magnitude.rank ≠ 0 := by
  intro zero
  have none := magnitude.units_eq_zero_iff.2 zero
  exact h ⟨none ▸ Nat.dvd_zero _, zero ▸ by decide⟩

/-- The decimal that is shown reads as the magnitude. -/
theorem rank_shownDecimal (magnitude : Magnitude) :
    (shownDecimal magnitude).rank = magnitude.rank := by
  unfold shownDecimal
  split
  case isTrue whole => exact rank_whole whole.1
  case isFalse other => exact Decimal.rank_shortest (rank_ne_zero_of_not_whole other)

/-- The text of a number in the range is a numeral of the decimal that it shows. -/
theorem denotes_plainText (h : (finite false magnitude).IsPositional) :
    Denotes (finite false magnitude).plainText.toList (shownDecimal magnitude).value := by
  unfold shownDecimal
  split
  case isTrue whole =>
    have digits := denotes_digits (decimalDigits_ne_nil (magnitude.units / unitsPerOne))
      (isDigit_decimalDigits _)
    have value : (⟨magnitude.units / unitsPerOne, 0⟩ : Decimal).value =
        digitsValue (decimalDigits (magnitude.units / unitsPerOne)) := by
      rw [digitsValue_decimalDigits]
      simp [Decimal.value]
    rw [plainText_of_whole whole.1 whole.2, String.toList_ofList, value]
    exact digits
  case isFalse other =>
    have nonzero := rank_ne_zero_of_not_whole other
    rw [plainText_of_not_whole other, String.toList_ofList]
    exact Layout.denotes_decimalText rfl (Decimal.coefficient_shortest_ne_zero nonzero)
      ((isPositional_iff_window nonzero).1 h)

/-- The text of a number in the range is a numeral, which is read as the number. -/
theorem readNumber?_plainText (h : (finite false magnitude).IsPositional) :
    IsNumeral (finite false magnitude).plainText.toList ∧
      Decimal.readNumber? (finite false magnitude).plainText = some (finite false magnitude) := by
  have written := denotes_plainText h
  have read := Decimal.readNumber?_of_denotes written
  rw [String.ofList_toList, Decimal.toBinary64_eq_finite (rank_shownDecimal magnitude)] at read
  exact ⟨written.1, read⟩

/-- The text of another finite number is a numeral and an exponent. -/
theorem plainText_eq_exponent (h : ¬(finite false magnitude).IsPositional) :
    ∃ numeral rest, (finite false magnitude).plainText.toList = numeral ++ 'e' :: rest ∧
      IsNumeral numeral := by
  have nonzero : magnitude.rank ≠ 0 := fun zero => h (isPositional_finite.2 (.inl zero))
  have other : ¬(unitsPerOne ∣ magnitude.units ∧ magnitude.rank < endMagnitude.rank) :=
    fun whole => h (isPositional_of_whole whole.1 whole.2)
  rw [plainText_of_not_whole other, String.toList_ofList]
  exact Layout.decimalText_eq_exponent (Decimal.coefficient_shortest_ne_zero nonzero)
    ((isPositional_iff_window nonzero).not.1 h)

section Signs

theorem integerText_neg {n : Nat} (positive : 0 < n) :
    (integerText (-(n : Int))).toList = '-' :: (integerText n).toList := by
  rw [integerText, integerText, if_pos (by omega), if_neg (by omega), Int.natAbs_neg]
  simp

/-- A negative number other than zero is written with a minus sign in front. -/
theorem plainText_negative (nonzero : magnitude.rank ≠ 0) :
    (finite true magnitude).plainText.toList = '-' :: (finite false magnitude).plainText.toList := by
  have sameInteger : (finite true magnitude).isInteger = (finite false magnitude).isInteger := rfl
  have sameSize : (finite true magnitude).abs = (finite false magnitude).abs := rfl
  rw [plainText_finite, plainText_finite, if_pos rfl, if_neg Bool.false_ne_true, sameInteger,
    sameSize]
  split
  · rename_i small
    have whole := isInteger_iff.1 (Bool.and_eq_true_iff.1 small).1
    rw [roundHalfEven_of_whole whole]
    refine integerText_neg (Nat.pos_of_ne_zero fun none => nonzero ?_)
    rw [← magnitude.units_eq_zero_iff, ← Nat.div_mul_cancel whole, none, Nat.zero_mul]
  · simp [shortestText, textWith, Layout.sign]

/-- Both zeros are written alike. -/
theorem plainText_zero {negative : Bool} (zero : magnitude.rank = 0) :
    (finite negative magnitude).plainText = "0" := by
  cases (Magnitude.eq_of_rank_eq zero : magnitude = .zero)
  cases negative <;> decide +kernel

end Signs

end Binary64

end Reckoner
