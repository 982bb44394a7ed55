import Reckoner.Binary64.Basic

/-!
# Structured data

Values that come from outside: requests, and the contents of settings files.
-/

namespace Reckoner

/-- A structured value. -/
inductive Data where
  /-- The absence of a value. -/
  | null
  /-- A truth value. -/
  | boolean (value : Bool)
  /-- An integer of any size. -/
  | integer (value : Int)
  /-- A number written with a point or an exponent. -/
  | real (value : Binary64)
  /-- A text. -/
  | text (value : String)
  /-- A date or a time, as it was written. -/
  | moment (written : String)
  /-- Values in order. -/
  | list (items : List Data)
  /-- Values under distinct names, in order of insertion. -/
  | table (entries : List (String × Data))

instance : Inhabited Data := ⟨.null⟩

end Reckoner
