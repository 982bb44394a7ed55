import Mathlib.Order.Monotone.Basic
import Mathlib.Tactic.Ring
import Reckoner.Binary64.Rounding

/-!
# Rounding goes to the nearest

The ranks are points on a line whose spacing doubles from binade to binade.  A ratio rounds above a
rank exactly when it lies beyond the midpoint between the rank and the next one, or on the midpoint
if the rank is odd.  So rounding preserves the order of ratios, a magnitude rounds to itself, and a
ratio that is at most a magnitude rounds to a finite number.

## Implementation notes

Ratios are compared by cross multiplication.  `le_roundHalfEven_iff` says which integers lie below a
ratio rounded to an integer, and `lt_nearestRank_iff` which ranks lie below a ratio rounded to a
rank, ties included; the order and the exact cases follow from these without another look at
quotients and remainders.

The points go on without an upper end, so that the rank of infinity has its place among them: it is
where the first power of two beyond the finite numbers would stand.
-/

namespace Reckoner

section RoundHalfEven

variable {k n d : Nat}

/-- An integer is at most a rounded ratio when it is less than one half above the ratio, or when it
is even and exactly one half above it. -/
theorem le_roundHalfEven_iff (positive : 0 < d) :
    k ≤ roundHalfEven n d ↔ 2 * (k * d) < 2 * n + d ∨ 2 * (k * d) = 2 * n + d ∧ k % 2 = 0 := by
  have parts := Nat.div_add_mod n d
  have small := Nat.mod_lt n positive
  rw [Nat.mul_comm] at parts
  unfold roundHalfEven
  dsimp only
  generalize n / d = q at parts ⊢
  generalize n % d = r at parts small ⊢
  rcases Nat.lt_trichotomy k (q + 1) with below | rfl | above
  · have : k * d ≤ q * d := Nat.mul_le_mul_right d (by omega)
    split <;> omega
  · have : (q + 1) * d = q * d + d := Nat.succ_mul q d
    split <;> omega
  · have : (q + 2) * d ≤ k * d := Nat.mul_le_mul_right d above
    rw [Nat.add_mul] at this
    split <;> omega

theorem roundHalfEven_le (positive : 0 < d) (h : n ≤ k * d) : roundHalfEven n d ≤ k := by
  by_contra greater
  have next := (le_roundHalfEven_iff positive).1 (Nat.lt_of_not_le greater)
  rw [Nat.succ_mul k] at next
  omega

theorem le_roundHalfEven (positive : 0 < d) (h : k * d ≤ n) : k ≤ roundHalfEven n d :=
  (le_roundHalfEven_iff positive).2 (.inl (by omega))

/-- An integer is its own rounding. -/
theorem roundHalfEven_mul (positive : 0 < d) : roundHalfEven (k * d) d = k :=
  Nat.le_antisymm (roundHalfEven_le positive (Nat.le_refl _))
    (le_roundHalfEven positive (Nat.le_refl _))

/-- An integer rounded from a ratio is at most one half away from it. -/
theorem roundHalfEven_near (positive : 0 < d) :
    2 * (roundHalfEven n d * d) ≤ 2 * n + d ∧ 2 * n ≤ 2 * (roundHalfEven n d * d) + d := by
  constructor
  · rcases (le_roundHalfEven_iff positive).1 (Nat.le_refl (roundHalfEven n d)) with below | ⟨tie, -⟩
    · exact Nat.le_of_lt below
    · exact Nat.le_of_eq tie
  · by_contra far
    have next := (le_roundHalfEven_iff (k := roundHalfEven n d + 1) (n := n) positive).2
      (.inl (by rw [Nat.succ_mul (roundHalfEven n d)]; omega))
    omega

end RoundHalfEven

section Spacing

variable {n d : Nat}

/-- How often the spacing doubles up to a ratio, as `nearestRank` counts it. -/
def spacing (n d : Nat) : Nat := (n / d).log2 - 52

theorem nearestRank_eq (n d : Nat) :
    nearestRank n d = spacing n d * binade + roundHalfEven n (d * 2 ^ spacing n d) := rfl

/-- Counted in steps of its spacing, a ratio stays below two binades. -/
theorem lt_of_spacing (positive : 0 < d) : n < 2 * binade * (d * 2 ^ spacing n d) := by
  have below : n / d < 2 ^ (spacing n d + 53) :=
    Nat.lt_of_lt_of_le Nat.lt_log2_self
      (Nat.pow_le_pow_right (by decide) (by unfold spacing; omega))
  calc n < (n / d + 1) * d := (Nat.div_lt_iff_lt_mul positive).1 (Nat.lt_succ_self _)
    _ ≤ 2 ^ (spacing n d + 53) * d := Nat.mul_le_mul_right d below
    _ = 2 * binade * (d * 2 ^ spacing n d) := by
      rw [Nat.pow_add, show 2 ^ 53 = 2 * binade by decide]
      ring

/-- Counted in steps of its spacing, a ratio beyond the first doubling reaches a binade. -/
theorem le_of_spacing_pos (h : 0 < spacing n d) : binade * (d * 2 ^ spacing n d) ≤ n := by
  have nonzero : n / d ≠ 0 := by
    intro zero
    simp [spacing, zero] at h
  have above : 2 ^ (spacing n d + 52) ≤ n / d :=
    Nat.le_trans (Nat.pow_le_pow_right (by decide) (by unfold spacing at h ⊢; omega))
      (Nat.log2_self_le nonzero)
  calc binade * (d * 2 ^ spacing n d) = 2 ^ (spacing n d + 52) * d := by
        rw [Nat.pow_add, show 2 ^ 52 = binade by decide]
        ring
    _ ≤ n / d * d := Nat.mul_le_mul_right d above
    _ ≤ n := Nat.div_mul_le_self n d

end Spacing

/-- How often the spacing has doubled on the way to a rank. -/
def shiftAt (rank : Nat) : Nat := rank / binade - 1

/-- The units at which a rank stands, also beyond the finite magnitudes. -/
def unitsAt (rank : Nat) : Nat := (rank - shiftAt rank * binade) * 2 ^ shiftAt rank

section Points

variable {s k l : Nat}

/-- Counted from where the spacing doubled last, a rank within two binades is a number of steps. -/
theorem unitsAt_add (doubled : s = 0 ∨ binade ≤ k) (within : k < 2 * binade) :
    shiftAt (s * binade + k) = s ∧ unitsAt (s * binade + k) = k * 2 ^ s := by
  have shift : shiftAt (s * binade + k) = s := by
    rw [shiftAt, Nat.add_comm, Nat.add_mul_div_right k s (by decide)]
    rcases Nat.lt_or_ge k binade with low | high
    · rw [Nat.div_eq_of_lt low]
      omega
    · rw [Nat.div_eq_of_lt_le (k := 1) (by omega) (by omega)]
      omega
  exact ⟨shift, by rw [unitsAt, shift, Nat.add_sub_cancel_left]⟩

/-- Every rank is counted from where its spacing doubled last. -/
theorem exists_steps (rank : Nat) :
    ∃ s k, rank = s * binade + k ∧ (s = 0 ∨ binade ≤ k) ∧ k < 2 * binade := by
  have parts := Nat.div_add_mod rank binade
  have small := Nat.mod_lt rank (show 0 < binade by decide)
  rw [Nat.mul_comm] at parts
  cases quotient : rank / binade with
  | zero => exact ⟨0, rank, by omega, .inl rfl, by rw [quotient] at parts; omega⟩
  | succ s =>
      refine ⟨s, binade + rank % binade, ?_, .inr (Nat.le_add_right _ _), by omega⟩
      rw [quotient, Nat.succ_mul] at parts
      omega

/-- The first rank with a spacing is a power of two. -/
theorem unitsAt_first (s : Nat) : unitsAt (s * binade + binade) = binade * 2 ^ s :=
  (unitsAt_add (.inr (Nat.le_refl binade)) (by decide)).2

/-- The next rank stands one spacing further. -/
theorem unitsAt_succ (rank : Nat) : unitsAt (rank + 1) = unitsAt rank + 2 ^ shiftAt rank := by
  obtain ⟨s, k, rfl, doubled, within⟩ := exists_steps rank
  obtain ⟨shift, units⟩ := unitsAt_add doubled within
  rw [shift, units, ← Nat.succ_mul]
  rcases Nat.lt_or_ge (k + 1) (2 * binade) with inner | last
  · rw [Nat.add_assoc]
    exact (unitsAt_add (doubled.imp_right Nat.le_succ_of_le) inner).2
  · -- The next rank is the first of its binade, where the spacing doubles again.
    have full : k + 1 = 2 * binade := by omega
    have carried : s * binade + k + 1 = (s + 1) * binade + binade := by
      rw [Nat.succ_mul]
      omega
    rw [carried, unitsAt_first, Nat.succ_eq_add_one, full, Nat.pow_succ]
    ring

/-- Twice a midpoint is an odd number of half steps. -/
theorem sum_unitsAt_mul {d : Nat} (doubled : s = 0 ∨ binade ≤ k) (within : k < 2 * binade) :
    (unitsAt (s * binade + k) + unitsAt (s * binade + k + 1)) * d =
      (2 * k + 1) * (d * 2 ^ s) := by
  obtain ⟨shift, units⟩ := unitsAt_add doubled within
  rw [unitsAt_succ, shift, units]
  ring

theorem strictMono_unitsAt : StrictMono unitsAt := by
  refine strictMono_nat_of_lt_succ fun rank => ?_
  rw [unitsAt_succ]
  exact Nat.lt_add_of_pos_right (Nat.two_pow_pos _)

/-- Up to two binades of steps of a spacing, every number of steps leads to a rank. -/
theorem exists_unitsAt_eq {c : Nat} (s : Nat) (few : c ≤ 2 * binade) :
    ∃ rank, unitsAt rank = c * 2 ^ s := by
  rcases few.eq_or_lt with rfl | within
  · refine ⟨(s + 1) * binade + binade, ?_⟩
    rw [unitsAt_first, Nat.pow_succ]
    ring
  · induction s generalizing c with
    | zero => exact ⟨0 * binade + c, (unitsAt_add (.inl rfl) within).2⟩
    | succ s ih =>
        rcases Nat.lt_or_ge c binade with low | high
        · -- Fewer steps than a binade are twice as many steps of the spacing before.
          obtain ⟨rank, units⟩ := ih (c := 2 * c) (by omega) (by omega)
          refine ⟨rank, ?_⟩
          rw [units, Nat.pow_succ]
          ring
        · exact ⟨(s + 1) * binade + c, (unitsAt_add (.inr high) within).2⟩

/-- The spacing never shrinks. -/
theorem shiftAt_le_shiftAt (h : k ≤ l) : shiftAt k ≤ shiftAt l :=
  Nat.sub_le_sub_right (Nat.div_le_div_right h) 1

end Points

section NearestRank

variable {n d n' d' : Nat}

/-- A ratio rounds above a rank when it is beyond the midpoint above the rank, or on the midpoint if
the rank is odd. -/
theorem lt_nearestRank_iff (positive : 0 < d) (k : Nat) :
    k < nearestRank n d ↔
      (unitsAt k + unitsAt (k + 1)) * d < 2 * n ∨
        (unitsAt k + unitsAt (k + 1)) * d = 2 * n ∧ k % 2 = 1 := by
  have step : 0 < d * 2 ^ spacing n d := Nat.mul_pos positive (Nat.two_pow_pos _)
  have upper := lt_of_spacing (n := n) positive
  have lower := le_of_spacing_pos (n := n) (d := d)
  rw [nearestRank_eq]
  generalize spacing n d = s at *
  have scale : binade * 2 ^ s * d = binade * (d * 2 ^ s) := by ring
  have next := strictMono_unitsAt (Nat.lt_add_one k)
  by_cases low : 0 < s ∧ k < s * binade + binade
  · -- The ratio and what it rounds to are both beyond the first rank with this spacing.
    obtain ⟨wide, below⟩ := low
    have reached : binade ≤ roundHalfEven n (d * 2 ^ s) := le_roundHalfEven step (lower wide)
    have first : unitsAt (k + 1) ≤ binade * 2 ^ s :=
      unitsAt_first s ▸ strictMono_unitsAt.monotone below
    have sum : (unitsAt k + unitsAt (k + 1)) * d < 2 * (binade * 2 ^ s) * d :=
      Nat.mul_lt_mul_of_pos_right (by omega) positive
    have far := lower wide
    rw [Nat.mul_assoc 2, scale] at sum
    exact iff_of_true (by omega) (.inl (by omega))
  · rcases Nat.lt_or_ge k (s * binade + 2 * binade) with inner | high
    · -- Between ranks with this spacing, the ratio is rounded to a number of steps.
      obtain ⟨j, rfl⟩ : ∃ j, k = s * binade + j := by
        refine Nat.exists_eq_add_of_le ?_
        rcases Nat.eq_zero_or_pos s with rfl | wide <;> omega
      have half : 2 * ((j + 1) * (d * 2 ^ s)) = (2 * j + 1) * (d * 2 ^ s) + d * 2 ^ s := by ring
      have parity : (s * binade + j) % 2 = j % 2 := by
        rw [show binade = 2251799813685248 * 2 by decide, ← Nat.mul_assoc, Nat.mul_add_mod']
      rw [sum_unitsAt_mul (by omega) (by omega), parity, Nat.add_lt_add_iff_left, ← Nat.succ_le_iff,
        le_roundHalfEven_iff step, half]
      omega
    · -- The ratio and what it rounds to are both at most the first rank with a wider spacing.
      have most : roundHalfEven n (d * 2 ^ s) ≤ 2 * binade :=
        roundHalfEven_le step (Nat.le_of_lt upper)
      have first : binade * 2 ^ (s + 1) ≤ unitsAt k := by
        rw [← unitsAt_first]
        exact strictMono_unitsAt.monotone (by rw [Nat.succ_mul]; omega)
      have sum : 2 * (binade * 2 ^ (s + 1)) * d ≤ (unitsAt k + unitsAt (k + 1)) * d :=
        Nat.mul_le_mul_right d (by omega)
      have wider : 2 * (binade * 2 ^ (s + 1)) * d = 2 * (2 * binade * (d * 2 ^ s)) := by
        rw [Nat.pow_succ]
        ring
      exact iff_of_false (by omega) (by omega)

/-- A greater ratio has no smaller rank. -/
theorem nearestRank_le_nearestRank (positive : 0 < d) (positive' : 0 < d')
    (h : n * d' ≤ n' * d) : nearestRank n d ≤ nearestRank n' d' := by
  by_contra greater
  have beyond := (lt_nearestRank_iff positive _).1 (Nat.lt_of_not_le greater)
  have within := (lt_nearestRank_iff positive' _).not.1 (Nat.lt_irrefl (nearestRank n' d'))
  generalize nearestRank n' d' = k at beyond within
  generalize unitsAt k + unitsAt (k + 1) = sum at beyond within
  have order : 2 * n * d' ≤ 2 * n' * d := by
    rw [Nat.mul_assoc, Nat.mul_assoc]
    exact Nat.mul_le_mul_left 2 h
  have swap : sum * d * d' = sum * d' * d := Nat.mul_right_comm sum d d'
  -- the midpoint is at most the lesser ratio and at least the greater one
  have least : sum * d * d' ≤ 2 * n * d' := Nat.mul_le_mul_right d' (by omega)
  have most : 2 * n' * d ≤ sum * d' * d := Nat.mul_le_mul_right d (by omega)
  have tie : sum * d = 2 * n := Nat.eq_of_mul_eq_mul_right positive' (by omega)
  have tie' : sum * d' = 2 * n' := Nat.eq_of_mul_eq_mul_right positive (by omega)
  omega

/-- A rank is its own rounding. -/
theorem nearestRank_unitsAt (positive : 0 < d) (k : Nat) :
    nearestRank (unitsAt k * d) d = k := by
  have scaled {a b : Nat} (h : a < b) : a * d < b * d := Nat.mul_lt_mul_of_pos_right h positive
  have next := scaled (strictMono_unitsAt (Nat.lt_add_one k))
  apply Nat.le_antisymm
  · by_contra above
    have beyond := (lt_nearestRank_iff positive k).1 (Nat.lt_of_not_le above)
    rw [Nat.add_mul] at beyond
    omega
  · cases k with
    | zero => exact Nat.zero_le _
    | succ k =>
        have before := scaled (strictMono_unitsAt (Nat.lt_add_one k))
        exact (lt_nearestRank_iff positive k).2 (.inl (by rw [Nat.add_mul]; omega))

end NearestRank

namespace Magnitude

variable (magnitude : Magnitude)

theorem eq_of_rank_eq {magnitude magnitude' : Magnitude} (h : magnitude.rank = magnitude'.rank) :
    magnitude = magnitude' := by
  cases magnitude
  cases magnitude'
  cases h
  rfl

theorem units_eq_unitsAt : magnitude.units = unitsAt magnitude.rank := rfl

/-- Only zero has no units. -/
theorem units_eq_zero_iff : magnitude.units = 0 ↔ magnitude.rank = 0 :=
  strictMono_unitsAt.injective.eq_iff' (by simp [unitsAt])

/-- A magnitude is its own rounding. -/
theorem nearestRank_units {d : Nat} (positive : 0 < d) :
    nearestRank (magnitude.units * d) d = magnitude.rank :=
  nearestRank_unitsAt positive magnitude.rank

/-- A ratio that is at most a magnitude has at most its rank. -/
theorem nearestRank_le_rank {n d : Nat} (positive : 0 < d) (h : n ≤ magnitude.units * d) :
    nearestRank n d ≤ magnitude.rank := by
  rw [← magnitude.nearestRank_units positive]
  exact nearestRank_le_nearestRank positive positive (Nat.mul_le_mul_right d h)

end Magnitude

theorem unitsPerOne_pos : 0 < unitsPerOne := by
  decide +kernel

namespace Binary64

variable {negative : Bool} {n d : Nat}

theorem isNaN_ofRank {rank : Nat} : (ofRank negative rank).isNaN = false := by
  unfold ofRank
  split <;> rfl

theorem isNaN_ofUnits : (ofUnits negative n d).isNaN = false := isNaN_ofRank

theorem isNaN_ofRatio : (ofRatio negative n d).isNaN = false := isNaN_ofUnits

/-- A ratio that is at most a magnitude rounds to a finite number. -/
theorem isFinite_ofUnits {magnitude : Magnitude} (positive : 0 < d)
    (h : n ≤ magnitude.units * d) : (ofUnits negative n d).isFinite = true := by
  have below := Nat.lt_of_le_of_lt (magnitude.nearestRank_le_rank positive h) magnitude.rank_lt
  rw [ofUnits, ofRank, dif_pos below]
  rfl

end Binary64

end Reckoner
