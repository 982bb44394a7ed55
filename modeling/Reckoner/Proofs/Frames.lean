import Reckoner.Expr.Size
import Reckoner.Proofs.Composition

/-!
# Activations that evaluation holds

How many activations the evaluation of a parsed expression holds at once, which the nesting limit
bounds whatever the length of the text.  Each level of nesting costs nine of them at most: three for
a call and two each for a power, a product and a sum around it.  A family of texts needs all nine.

## Implementation notes

A chain of operations is followed in a loop, so that its first operand is evaluated beside the same
activations as the chain.  What a phrase holds on its spine is therefore no more than what a part of
it holds alone, and `Rule.part` names the rule of the parts.
-/

namespace Reckoner

/-- How many activations the evaluation of a phrase of the rule holds at most, by its nesting. -/
def Rule.frames : Rule → Nat → Nat
  | .expression, n => 9 * n + 5
  | .term, n => 9 * n + 3
  | .factor, n | .power, n => 9 * n + 1
  | .operand, n => max 1 (9 * n - 1)

namespace Expr

/-- Following a chain costs two activations, and nothing else is a chain. -/
theorem chainFrames_le_frames (e : Expr) : e.chainFrames ≤ e.frames := by
  cases e with
  | binary operator left right =>
      rw [chainFrames, frames]
      omega
  | number | constant | negate | call => exact Nat.le_of_eq (by rw [chainFrames, frames])

mutual

/-- What the spine of a phrase holds is bounded by the rule of its parts, and what the phrase holds
by its rule. -/
theorem frames_le_of_derives {rule : Rule} {n : Nat} {ts : List Token} {e : Expr}
    (h : Derives rule n ts e) :
    e.chainFrames ≤ rule.part.frames n ∧ e.frames ≤ rule.frames n := by
  have spine := e.chainFrames_le_frames
  match h with
  | .term derived | .factor derived | .power derived | .operand derived =>
      obtain ⟨chain, whole⟩ := frames_le_of_derives derived
      simp only [Rule.part, Rule.frames] at chain whole ⊢
      omega
  | .add left _ right | .sub left _ right | .mul left _ right | .div left _ right
  | .raise left _ right =>
      -- the left operand goes on with the spine, and only the right one is a phrase of its own
      obtain ⟨chain, _⟩ := frames_le_of_derives left
      obtain ⟨_, whole⟩ := frames_le_of_derives right
      simp only [Rule.part, Rule.frames, chainFrames, frames] at chain whole ⊢
      omega
  | .negate _ derived =>
      obtain ⟨_, whole⟩ := frames_le_of_derives derived
      simp only [Rule.part, Rule.frames, chainFrames, frames] at whole ⊢
      omega
  | .number _ _ | .constant _ _ _ =>
      simp only [Rule.part, Rule.frames, chainFrames, frames]
      omega
  | .group _ derived _ =>
      -- a chain in parentheses is followed by the loop that reaches it, one level of nesting deeper
      obtain ⟨_, whole⟩ := frames_le_of_derives derived
      simp only [Rule.part, Rule.frames] at whole ⊢
      omega
  | .call _ _ _ _ derived _ _ =>
      have whole := framesOfAll_le_of_derivesAll derived
      simp only [Rule.part, Rule.frames, chainFrames, frames]
      omega

theorem framesOfAll_le_of_derivesAll {n : Nat} {ts : List Token} {es : List Expr}
    (h : DerivesAll n ts es) : framesOfAll es ≤ 9 * n + 5 := by
  match h with
  | .one derived =>
      obtain ⟨_, whole⟩ := frames_le_of_derives derived
      simp only [Rule.frames, framesOfAll] at whole ⊢
      omega
  | .more first _ others =>
      obtain ⟨_, whole⟩ := frames_le_of_derives first
      have further := framesOfAll_le_of_derivesAll others
      simp only [Rule.frames, framesOfAll] at whole ⊢
      omega

end

/-- The activations for a text that is parsed are bounded by its nesting, whatever its length. -/
theorem exists_frames_le_of_parse {limit : Int} {source : String} {e : Expr}
    (h : Expr.parse limit source = .ok e) :
    ∃ n : Nat, (n = 0 ∨ (n : Int) ≤ limit) ∧ e.frames ≤ 9 * n + 5 := by
  obtain ⟨n, phrase, room⟩ := phrase_of_parse h
  obtain ⟨k, bound, ts, derived⟩ := phrase.exists_derives
  have whole : e.frames ≤ 9 * k + 5 := (frames_le_of_derives derived).2
  exact ⟨n, room, by omega⟩

section Tower

/-- The constant that the operations of a tower are applied to. -/
def base : Expr := .constant Constant.e.name Constant.e.value

/-- A call of a function, raised to a power, as the last factor of a product: seven activations
beside those of the argument. -/
def levelOn (argument : Expr) : Expr :=
  .binary .mul base (.binary .pow (.call Builtin.exp.name [argument]) base)

/-- Sums that end in such a product, each in the call of the next. -/
def tower : Nat → Expr
  | 0 => .binary .add base (.binary .mul base base)
  | n + 1 => .binary .add base (levelOn (tower n))

/-- The text of the product around the text of an argument. -/
def levelText (argument : List Char) : List Char := "e*exp(".toList ++ argument ++ ")^e".toList

/-- The text of a tower. -/
def towerText : Nat → List Char
  | 0 => "e+e*e".toList
  | n + 1 => "e+".toList ++ levelText (towerText n)

variable {n : Nat} {cs : List Char} {e : Expr}

theorem phrase_base : Phrase .operand 0 ['e'] base := Phrase.constant .e

theorem phrase_base_factor : Phrase .factor 0 ['e'] base :=
  phrase_base.lift fun derived => .power (.operand derived)

theorem phrase_base_term : Phrase .term 0 ['e'] base := phrase_base_factor.lift .factor

theorem phrase_levelOn (h : Phrase .expression n cs e) :
    Phrase .term (n + 1) (levelText cs) (levelOn e) := by
  have power := (Phrase.call .exp (.one h) rfl).raise phrase_base_factor
  have whole := phrase_base_term.mul (power.lift .power)
  have text : levelText cs =
      'e' :: '*' :: 'e' :: 'x' :: 'p' :: '(' :: (cs ++ [')', '^', 'e']) := rfl
  rw [text]
  simpa [levelOn, Builtin.name] using whole.mono (by omega : _ ≤ n + 1)

/-- The nesting of a tower is its height. -/
theorem phrase_tower (n : Nat) : Phrase .expression n (towerText n) (tower n) := by
  induction n with
  | zero => exact phrase_base.of_operand.add (phrase_base_term.mul phrase_base_factor)
  | succ n ih =>
      have whole := phrase_base.of_operand.add (phrase_levelOn ih)
      simpa [towerText, tower] using whole

theorem frames_levelOn (argument : Expr) : (levelOn argument).frames = argument.frames + 7 := by
  simp only [levelOn, base, frames, chainFrames, framesOfAll]
  omega

theorem frames_tower (n : Nat) : (tower n).frames = 9 * n + 5 := by
  induction n with
  | zero => rfl
  | succ n ih =>
      simp only [tower, base, frames, chainFrames, frames_levelOn, ih]
      omega

/-- A level on a tower as the second term of a sum whose first term divides by zero. -/
def blockedTower (n : Nat) : Expr :=
  .binary .add (.binary .div base (.binary .sub base base)) (levelOn (tower n))

/-- The text of a blocked tower. -/
def blockedTowerText (n : Nat) : List Char := "e/(e-e)+".toList ++ levelText (towerText n)

theorem phrase_blockedTower (n : Nat) :
    Phrase .expression (n + 3) (blockedTowerText n) (blockedTower n) := by
  have text : blockedTowerText n =
      'e' :: '/' :: '(' :: 'e' :: '-' :: 'e' :: ')' :: '+' :: levelText (towerText n) := rfl
  have deepest : max 3 (n + 1) ≤ n + 3 := by omega
  have difference := (Phrase.binary .sub phrase_base [] nofun [] nofun phrase_base).group
  have quotient := Phrase.binary .div phrase_base [] nofun [] nofun difference
  have whole := quotient.add (phrase_levelOn (phrase_tower n))
  rw [text]
  simpa [blockedTower, Operator.symbol] using whole.mono deepest

theorem frames_blockedTower (n : Nat) : (blockedTower n).frames = 9 * n + 14 := by
  simp only [blockedTower, base, frames, chainFrames, frames_levelOn, frames_tower]
  omega

/-- The first term fails, so that the tower is not evaluated. -/
theorem meaning_blockedTower (context : Context) (n : Nat) :
    (blockedTower n).meaning context = .error (.failure .divisionByZero) := by
  have difference : Constant.e.value - Constant.e.value = Binary64.zero := by decide +kernel
  simp only [blockedTower, base, meaning]
  generalize Constant.e.value = x at difference ⊢
  simp only [Operator.apply, bind, Except.bind, difference]
  rfl

end Tower

end Expr

/-- Under a nesting limit, evaluating a text that is parsed holds at most nine activations for each
level of the limit and five more. -/
theorem frames_le_of_parse (limit : Nat) (source : String) (e : Expr)
    (parsed : Expr.parse limit source = .ok e) : e.frames ≤ 9 * limit + 5 := by
  obtain ⟨n, room, bound⟩ := Expr.exists_frames_le_of_parse parsed
  omega

/-- A tower of height one is parsed under the limit one, and it needs the fourteen activations that
the limit allows. -/
theorem frames_le_of_parse_tower :
    Expr.parse (1 : Nat) "e+e*exp(e+e*e)^e" = .ok (Expr.tower 1) ∧ (Expr.tower 1).frames = 14 ∧
      (Expr.tower 1).frames ≤ 9 * 1 + 5 := by
  have parsed : Expr.parse (1 : Nat) "e+e*exp(e+e*e)^e" = .ok (Expr.tower 1) :=
    Expr.parse_of_phrase (Expr.phrase_tower 1) (Int.le_refl _)
  exact ⟨parsed, Expr.frames_tower 1, frames_le_of_parse 1 _ _ parsed⟩

/-- The nesting limits under which evaluating a text that is parsed always holds fewer than a
thousand activations are those up to 110. -/
theorem frames_lt_iff_limit_le (limit : Int) :
    (∀ source e, Expr.parse limit source = .ok e → e.frames < 1000) ↔ limit ≤ 110 := by
  constructor
  · intro few
    refine Int.not_lt.1 fun exceeds => ?_
    have parsed : Expr.parse limit (String.ofList (Expr.towerText 111)) = .ok (Expr.tower 111) :=
      Expr.parse_of_phrase (by simpa using Expr.phrase_tower 111) (by omega)
    have small := few _ _ parsed
    rw [Expr.frames_tower] at small
    omega
  · intro low source e parsed
    obtain ⟨n, room, bound⟩ := Expr.exists_frames_le_of_parse parsed
    omega

/-- Under the greatest limit that may be chosen, a blocked tower is parsed, and calculated up to the
division by zero, although it needs 1004 activations. -/
theorem frames_blockedTower_greatestMaxDepth :
    Expr.parse Settings.greatestMaxDepth (String.ofList (Expr.blockedTowerText 110)) =
        .ok (Expr.blockedTower 110) ∧
      (Expr.blockedTower 110).frames = 1004 ∧
      calculate ⟨.platform, { Settings.default with maxDepth := Settings.greatestMaxDepth }⟩
        (String.ofList (Expr.blockedTowerText 110)) =
          .error (.failure (.evaluation .divisionByZero)) := by
  have phrase : Phrase .expression 113 (String.ofList (Expr.blockedTowerText 110)).toList
      (Expr.blockedTower 110) := by
    rw [String.toList_ofList]
    exact Expr.phrase_blockedTower 110
  refine ⟨Expr.parse_of_phrase phrase (by decide), Expr.frames_blockedTower 110, ?_⟩
  rw [calculate_of_phrase phrase (by decide), Expr.meaning_blockedTower]
  rfl

end Reckoner
