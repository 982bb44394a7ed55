import Reckoner.Answer
import Reckoner.Proofs.Composition
import Reckoner.Proofs.RoundTrip
import Reckoner.Proofs.Settings.Validation

/-!
# Typing an answer back in

An answer that is shown without a precision is an expression exactly when it shows no exponent and is
finite, and then it has the value that it shows.  Every other answer fails at a character: at the
mark of an exponent, which touches a numeral, or at the first letter of the name of the infinity.
-/

namespace Reckoner.Answer

open Token (scan scanFrom)

variable {context : Context} {magnitude : Magnitude} {negative : Bool}

section Finite

/-- A number in the range that numerals denote is calculated as itself.  A minus sign in front of it
nests once, and a zero is written without one. -/
theorem calculate_plainText (valid : context.settings.Valid)
    (positional : (Binary64.finite false magnitude).IsPositional) :
    calculate context (Binary64.finite negative magnitude).plainText =
      .ok (if (Binary64.finite negative magnitude).eq .zero then .zero
        else .finite negative magnitude) := by
  have room := valid.1.1
  obtain ⟨numeral, read⟩ := Binary64.readNumber?_plainText positional
  have phrase := Phrase.number numeral (by rw [String.ofList_toList, read])
  have unsigned : calculate context (Binary64.finite false magnitude).plainText =
      .ok (.finite false magnitude) := by
    rw [calculate_of_phrase phrase.of_operand (by omega), Expr.meaning]
    rfl
  by_cases zero : magnitude.rank = 0
  · rw [if_pos (Binary64.eq_zero_iff.2 zero), Binary64.plainText_zero zero]
    rw [Binary64.plainText_zero zero] at unsigned
    cases (Magnitude.eq_of_rank_eq zero : magnitude = .zero)
    exact unsigned
  · rw [if_neg (Binary64.eq_zero_iff.not.2 zero)]
    cases negative with
    | false => exact unsigned
    | true =>
        have signed := phrase.negate
        rw [← Binary64.plainText_negative zero] at signed
        rw [calculate_of_phrase signed (by omega), Expr.meaning, Expr.meaning]
        rfl

/-- The text of a number outside the range breaks at the mark of its exponent. -/
theorem breaks_plainText (outside : ¬(Binary64.finite false magnitude).IsPositional) :
    Breaks (Binary64.finite negative magnitude).plainText.toList := by
  obtain ⟨numeral, rest, text, isNumeral⟩ := Binary64.plainText_eq_exponent outside
  have broken : Breaks (Binary64.finite false magnitude).plainText.toList :=
    text ▸ .numeral isNumeral (by decide) (by decide) (by decide)
  have nonzero : magnitude.rank ≠ 0 :=
    fun zero => outside (Binary64.isPositional_finite.2 (.inl zero))
  cases negative with
  | false => exact broken
  | true => exact Binary64.plainText_negative nonzero ▸ .symbol .minus rfl broken

end Finite

/-- Scanning stops at the first letter of the name of the infinity, with a sign in front or not. -/
theorem scan_infinite (negative : Bool) : ∃ cause,
    scan (numberText (.infinite negative)) = .error cause ∧ cause.kind = .unexpectedCharacter := by
  have stopped (position : Nat) (found : List Token) :
      scanFrom position found "Infinity".toList = .error (.unexpectedCharacter 'I' position) :=
    Token.scanFrom_of_error rfl rfl
  cases negative with
  | false => exact ⟨.unexpectedCharacter 'I' 0, stopped 0 [], rfl⟩
  | true =>
      have signed : scanFrom 0 [] (['-'] ++ "Infinity".toList) = _ :=
        Token.scanFrom_lexeme .minus (.of_symbol rfl)
      exact ⟨.unexpectedCharacter 'I' 1, signed.trans (stopped 1 _), rfl⟩

/-- Under valid settings, the answer for a number that is zero or lies from `10 ^ (-4)` up to
`10 ^ 16` in magnitude is calculated as the number, a zero as the positive one.  The answer for every
other number except NaN fails for a character that is not expected. -/
theorem calculate_text (context : Context) (valid : context.settings.Valid) (x : Binary64)
    (real : x.isNaN = false) :
    ∃ shown, text none x = .ok shown ∧
      (x.abs.IsPositional → calculate context shown = .ok (if x.eq .zero then .zero else x)) ∧
      (¬x.abs.IsPositional → ∃ cause, calculate context shown = .error (.failure cause) ∧
        cause.kind = .unexpectedCharacter) := by
  cases x with
  | nan => cases real
  | infinite negative =>
      obtain ⟨cause, stopped, kind⟩ := scan_infinite negative
      refine ⟨_, rfl, fun positional => ?_, fun _ => ?_⟩
      · exact absurd positional Binary64.not_isPositional_infinite
      · exact ⟨.lexical cause, calculate_of_scan_error stopped, kind⟩
  | finite negative magnitude =>
      refine ⟨_, rfl, fun positional => calculate_plainText valid positional, fun outside => ?_⟩
      obtain ⟨cause, stopped, kind⟩ := (breaks_plainText outside).scanFrom_eq 0 []
      exact ⟨.lexical cause, calculate_of_scan_error stopped, kind⟩

/-- The answer `-2.5` is calculated as the number that it shows. -/
theorem calculate_text_negative : Settings.default.Valid ∧
    (Decimal.toBinary64 true ⟨25, -1⟩).isNaN = false ∧
    text none (Decimal.toBinary64 true ⟨25, -1⟩) = .ok "-2.5" ∧
    calculate ⟨.platform, .default⟩ "-2.5" = .ok (Decimal.toBinary64 true ⟨25, -1⟩) := by
  have real : (Decimal.toBinary64 true ⟨25, -1⟩).isNaN = false := by decide +kernel
  have written : text none (Decimal.toBinary64 true ⟨25, -1⟩) = .ok "-2.5" := by decide +kernel
  have positional : (Decimal.toBinary64 true ⟨25, -1⟩).abs.IsPositional := .inr (by decide +kernel)
  have nonzero : (Decimal.toBinary64 true ⟨25, -1⟩).eq .zero ≠ true := by decide +kernel
  obtain ⟨shown, same, calculated, -⟩ :=
    calculate_text ⟨.platform, .default⟩ Settings.valid_default _ real
  cases written.symm.trans same
  refine ⟨Settings.valid_default, real, written, (calculated positional).trans ?_⟩
  rw [if_neg nonzero]

end Reckoner.Answer
