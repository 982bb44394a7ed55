import Mathlib.Tactic.Ring
import Reckoner.Decimal.Basic

/-!
# Digits

The decimal digits of a natural number are digits, they read as the number, and there are as many as
the number of its digits says.
-/

namespace Reckoner

variable {n : Nat} {cs ds : List Char}

theorem toNat_digitChar : ∀ n < 10, (digitChar n).toNat = 48 + n := by
  decide

theorem isDigit_digitChar : ∀ n < 10, '0' ≤ digitChar n ∧ digitChar n ≤ '9' := by
  decide

theorem decimalDigits_ne_nil (n : Nat) : decimalDigits n ≠ [] := by
  rw [decimalDigits]
  split <;> simp

theorem isDigit_decimalDigits (n : Nat) : ∀ c ∈ decimalDigits n, '0' ≤ c ∧ c ≤ '9' := by
  fun_induction decimalDigits n with
  | case1 n small => simpa using isDigit_digitChar n small
  | case2 n large ih =>
      intro c mem
      rcases List.mem_append.1 mem with front | last
      · exact ih c front
      · cases List.mem_singleton.1 last
        exact isDigit_digitChar _ (Nat.mod_lt n (by decide))

section Value

/-- Digits behind a number count for less the more of them follow. -/
theorem foldl_digits (value : Nat) (cs : List Char) :
    cs.foldl (fun value digit => 10 * value + (digit.toNat - 48)) value =
      value * 10 ^ cs.length + digitsValue cs := by
  unfold digitsValue
  induction cs generalizing value with
  | nil => simp
  | cons c cs ih =>
      rw [List.foldl_cons, List.foldl_cons, ih, ih (10 * 0 + _), List.length_cons, Nat.pow_succ]
      ring

theorem digitsValue_append : digitsValue (cs ++ ds) =
    digitsValue cs * 10 ^ ds.length + digitsValue ds := by
  rw [digitsValue, List.foldl_append, foldl_digits]
  rfl

theorem digitsValue_cons (c : Char) : digitsValue (c :: cs) =
    (c.toNat - 48) * 10 ^ cs.length + digitsValue cs := by
  rw [digitsValue, List.foldl_cons, foldl_digits]
  simp

theorem digitsValue_zeros (k : Nat) : digitsValue (List.replicate k '0') = 0 := by
  induction k with
  | zero => rfl
  | succ k ih =>
      rw [List.replicate_succ, digitsValue_cons, ih]
      simp

/-- Zeros in front of digits do not count. -/
theorem digitsValue_zeros_append (k : Nat) :
    digitsValue (List.replicate k '0' ++ cs) = digitsValue cs := by
  rw [digitsValue_append, digitsValue_zeros, Nat.zero_mul, Nat.zero_add]

/-- Each zero behind digits multiplies by ten. -/
theorem digitsValue_append_zeros (k : Nat) :
    digitsValue (cs ++ List.replicate k '0') = digitsValue cs * 10 ^ k := by
  rw [digitsValue_append, digitsValue_zeros, List.length_replicate, Nat.add_zero]

theorem digitsValue_decimalDigits (n : Nat) : digitsValue (decimalDigits n) = n := by
  fun_induction decimalDigits n with
  | case1 n small =>
      rw [digitsValue_cons, toNat_digitChar n small]
      simp [digitsValue]
  | case2 n large ih =>
      rw [digitsValue_append, ih, digitsValue_cons, toNat_digitChar _ (Nat.mod_lt n (by decide))]
      simp only [List.length_singleton, List.length_nil, digitsValue, List.foldl_nil]
      omega

end Value

section Count

theorem length_decimalDigits (positive : 0 < n) : (decimalDigits n).length = digitCount n := by
  fun_induction decimalDigits n with
  | case1 n small =>
      rw [digitCount, if_neg (by omega), Nat.div_eq_of_lt small, digitCount]
      rfl
  | case2 n large ih =>
      rw [digitCount, if_neg (by omega), List.length_append, ih (by omega)]
      rfl

theorem digitCount_pos (positive : 0 < n) : 0 < digitCount n := by
  rw [digitCount, if_neg (by omega)]
  omega

theorem lt_pow_digitCount (n : Nat) : n < 10 ^ digitCount n := by
  fun_induction digitCount n with
  | case1 => decide
  | case2 n nonzero ih =>
      rw [Nat.pow_succ]
      omega

theorem pow_digitCount_le (positive : 0 < n) : 10 ^ (digitCount n - 1) ≤ n := by
  fun_induction digitCount n with
  | case1 => omega
  | case2 n nonzero ih =>
      rw [Nat.add_sub_cancel]
      rcases Nat.eq_zero_or_pos (n / 10) with small | large
      · rw [small, digitCount]
        exact positive
      · have step : 10 ^ digitCount (n / 10) = 10 ^ (digitCount (n / 10) - 1) * 10 := by
          rw [← Nat.pow_succ, Nat.succ_eq_add_one, Nat.sub_add_cancel (digitCount_pos large)]
        have := ih large
        omega

end Count

end Reckoner
