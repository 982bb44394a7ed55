import Reckoner.Token

/-!
# Balanced parentheses

Which parentheses of a list of tokens match, read from left to right with the positions of those
that are open; and what their numbers say about it.
-/

namespace Reckoner.Token

/-- The parentheses of tokens that have no partner. -/
structure Unpaired where
  /-- The position of the first closing parenthesis that closes nothing, if there is one. -/
  stray : Option Int
  /-- The positions of the opening parentheses that nothing closes, the last one first. -/
  unclosed : List Int
deriving DecidableEq

/-- The unpaired parentheses of tokens behind opening parentheses at the given positions.  A stray
parenthesis leaves what follows it as if it were not there. -/
def unpairedFrom (opened : List Int) : List Token → Unpaired
  | [] => ⟨none, opened⟩
  | token :: following =>
      if token.kind = .leftParen then unpairedFrom (token.position :: opened) following
      else if token.kind = .rightParen then
        match opened with
        | [] => ⟨some token.position, (unpairedFrom [] following).unclosed⟩
        | _ :: outer => unpairedFrom outer following
      else unpairedFrom opened following

/-- The unpaired parentheses of tokens. -/
def unpaired (tokens : List Token) : Unpaired := unpairedFrom [] tokens

/-- Whether every parenthesis has a partner. -/
def Balanced (tokens : List Token) : Prop := unpaired tokens = ⟨none, []⟩

instance (tokens : List Token) : Decidable (Balanced tokens) :=
  inferInstanceAs (Decidable (_ = _))

/-- How many opening parentheses there are. -/
def openings (tokens : List Token) : Nat := tokens.countP (·.kind = .leftParen)

/-- How many closing parentheses there are. -/
def closings (tokens : List Token) : Nat := tokens.countP (·.kind = .rightParen)

/-- Parentheses are closed as often as they are opened, and in no beginning more often. -/
structure WellNested (tokens : List Token) : Prop where
  total : closings tokens = openings tokens
  beginning (n : Nat) : closings (tokens.take n) ≤ openings (tokens.take n)

end Reckoner.Token
