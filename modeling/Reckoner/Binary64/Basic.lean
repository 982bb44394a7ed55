/-!
# Binary64 numbers as exact mathematical objects

A finite binary64 number is a sign and a magnitude.  The magnitudes are numbered in increasing
order by their rank, which is also the low 63 bits of the standard encoding: rank `0` is zero, and
rank `magnitudeCount` is where infinity stands.  Each magnitude is a whole number of units, the
least positive number `2 ^ (-1074)`.

## Implementation notes

Writing `shift` for how often the spacing has doubled, a magnitude of rank `r` is
`(r - shift * binade) * 2 ^ shift` units.  Subnormal and normal magnitudes share this formula, and
comparison of numbers is comparison of ranks.  There is one NaN, since no answer shows its payload.

Powers are written with `Nat.pow`, which names the same operation whatever instances are in scope;
`Nat.pow_eq` turns it into the usual form.
-/

namespace Reckoner

/-- The number of normal magnitudes from one power of two to the next, `2 ^ 52`. -/
def binade : Nat := Nat.pow 2 52

/-- The number of finite magnitudes, which is the rank of infinity. -/
def magnitudeCount : Nat := 2047 * binade

/-- The number of units in one: a unit is the least positive magnitude, `2 ^ (-1074)`. -/
def unitsPerOne : Nat := Nat.pow 2 1074

/-- A finite magnitude, named by its rank among all of them. -/
structure Magnitude where
  /-- The place in the increasing list of magnitudes. -/
  rank : Nat
  /-- Finite magnitudes stand before infinity. -/
  rank_lt : rank < magnitudeCount
deriving DecidableEq

namespace Magnitude

/-- Zero has rank zero. -/
def zero : Magnitude := ⟨0, by decide⟩

/-- How often the spacing of the magnitudes has doubled on the way to this one. -/
def shift (magnitude : Magnitude) : Nat := magnitude.rank / binade - 1

/-- The integer significand, below `2 ^ 53`. -/
def significand (magnitude : Magnitude) : Nat :=
  magnitude.rank - magnitude.shift * binade

/-- The exact value, as a number of units. -/
def units (magnitude : Magnitude) : Nat :=
  magnitude.significand * Nat.pow 2 magnitude.shift

end Magnitude

/-- A binary64 number: not a number, an infinity, or a signed finite magnitude. -/
inductive Binary64 where
  /-- The result of an operation that has none. -/
  | nan
  /-- An infinity of either sign. -/
  | infinite (negative : Bool)
  /-- A finite number; both zeros are among them. -/
  | finite (negative : Bool) (magnitude : Magnitude)
deriving DecidableEq

namespace Binary64

/-- The number zero with a positive sign. -/
def zero : Binary64 := .finite false .zero

instance : Inhabited Binary64 := ⟨zero⟩

/-- Whether the number is NaN. -/
def isNaN : Binary64 → Bool
  | .nan => true
  | _ => false

/-- Whether the number is one of the two infinities. -/
def isInfinite : Binary64 → Bool
  | .infinite _ => true
  | _ => false

/-- Whether the number is finite. -/
def isFinite : Binary64 → Bool
  | .finite _ _ => true
  | _ => false

/-- Whether the sign is negative; negative zero counts, NaN does not. -/
def isNegative : Binary64 → Bool
  | .nan => false
  | .infinite negative => negative
  | .finite negative _ => negative

/-- The weight of the sign in the standard encoding, whose highest bit it is. -/
def signWeight : Nat := Nat.pow 2 63

/-- The standard encoding in 64 bits, with one pattern for NaN. -/
def toBits : Binary64 → UInt64
  | .nan => 0x7ff8000000000000
  | .infinite negative => UInt64.ofNat (signPart negative + magnitudeCount)
  | .finite negative magnitude => UInt64.ofNat (signPart negative + magnitude.rank)
where
  /-- What the sign contributes. -/
  signPart (negative : Bool) : Nat := if negative then signWeight else 0

/-- The number with the given encoding; every NaN pattern is the one NaN. -/
def ofBits (bits : UInt64) : Binary64 :=
  let negative := decide (signWeight ≤ bits.toNat)
  let rank := bits.toNat % signWeight
  if h : rank < magnitudeCount then .finite negative ⟨rank, h⟩
  else if rank = magnitudeCount then .infinite negative
  else .nan

/-- The place of a number on the number line: its signed rank.  Both zeros stand at `0`, the
infinities stand outside all finite numbers, and NaN has no place. -/
def place? : Binary64 → Option Int
  | .nan => none
  | .infinite negative => some (signed negative magnitudeCount)
  | .finite negative magnitude => some (signed negative magnitude.rank)
where
  /-- A rank with its sign. -/
  signed (negative : Bool) (rank : Nat) : Int := if negative then -(rank : Int) else rank

/-- Numerical order; NaN is below nothing and above nothing. -/
def lt (x y : Binary64) : Bool :=
  match x.place?, y.place? with
  | some a, some b => decide (a < b)
  | _, _ => false

/-- Numerical order or equality; false when either side is NaN. -/
def le (x y : Binary64) : Bool :=
  match x.place?, y.place? with
  | some a, some b => decide (a ≤ b)
  | _, _ => false

/-- Numerical equality: the zeros are equal, NaN differs from everything. -/
def eq (x y : Binary64) : Bool :=
  match x.place?, y.place? with
  | some a, some b => decide (a = b)
  | _, _ => false

/-- The same number with the opposite sign. -/
def neg : Binary64 → Binary64
  | .nan => .nan
  | .infinite negative => .infinite (!negative)
  | .finite negative magnitude => .finite (!negative) magnitude

/-- The same number with a positive sign. -/
def abs : Binary64 → Binary64
  | .nan => .nan
  | .infinite _ => .infinite false
  | .finite _ magnitude => .finite false magnitude

instance : Neg Binary64 := ⟨neg⟩

end Binary64

end Reckoner
