import Reckoner.Proofs.Toml.Scalar

/-!
# Texts and names are read as they are written

A text between double quotes is read as the text that was written, and a dotted name as the path of
its parts, whether these stand between quotes or not.
-/

namespace Reckoner.Toml

open Reckoner.Text (backslash doubleQuote hexDigits)

variable {c : Char} {cs found rest : List Char} {content part : String}

section Escapes

theorem hexValue?_digitChar {n : Nat} (digit : n < 16) : hexValue? (Nat.digitChar n) = some n := by
  revert n
  decide

theorem readEscaped_hex {left value digit : Nat} (hex : hexValue? c = some digit) :
    readEscaped false (.hex left value) found (c :: rest) =
      if 1 < left then readEscaped false (.hex (left - 1) (16 * value + digit)) found rest
      else if (16 * value + digit).isValidChar then
        readEscaped false .plain (Char.ofNat (16 * value + digit) :: found) rest
      else none := by
  rw [readEscaped, hex]

/-- The digits of an escaped character are read as the character. -/
theorem readEscaped_hexDigits (small : c.toNat < 65536) :
    readEscaped false (.hex 4 0) found (hexDigits 4 c.toNat ++ rest) =
      readEscaped false .plain (c :: found) rest := by
  have digits : hexDigits 4 c.toNat ++ rest =
      Nat.digitChar (c.toNat / 16 / 16 / 16 % 16) :: Nat.digitChar (c.toNat / 16 / 16 % 16) ::
        Nat.digitChar (c.toNat / 16 % 16) :: Nat.digitChar (c.toNat % 16) :: rest := rfl
  have value : 16 * (16 * (16 * (16 * 0 + c.toNat / 16 / 16 / 16 % 16) + c.toNat / 16 / 16 % 16) +
      c.toNat / 16 % 16) + c.toNat % 16 = c.toNat := by omega
  have hex (n : Nat) : hexValue? (Nat.digitChar (n % 16)) = some (n % 16) :=
    hexValue?_digitChar (Nat.mod_lt n (by decide))
  rw [digits, readEscaped_hex (hex _), readEscaped_hex (hex _), readEscaped_hex (hex _),
    readEscaped_hex (hex _), value, Char.ofNat_toNat]
  exact if_pos c.valid

/-- A character of a text is read back, whether it had to be escaped or not. -/
theorem readEscaped_escapedChars : readEscaped false .plain found (escapedChars c ++ rest) =
    readEscaped false .plain (c :: found) rest := by
  unfold escapedChars
  split
  · rename_i special
    rcases special with rfl | rfl <;> rfl
  · rename_i plain
    obtain ⟨noQuote, noBackslash⟩ := not_or.1 plain
    split
    · rename_i forbidden
      have small : c.toNat < 65536 := by
        simp only [isForbidden, isControl, Bool.and_eq_true, Bool.or_eq_true,
          decide_eq_true_eq] at forbidden
        omega
      rw [← readEscaped_hexDigits small]
      rfl
    · rename_i allowed
      show readEscaped false .plain found (c :: rest) = _
      rw [readEscaped, if_neg (by simp), if_neg noBackslash, if_neg (by simp [noQuote]),
        if_neg (by simp [noQuote]), if_neg allowed]
      all_goals exact nofun

/-- A text is read up to the quote behind it. -/
theorem readEscaped_flatMap : readEscaped false .plain found
    (cs.flatMap escapedChars ++ doubleQuote :: rest) = some (found.reverse ++ cs, rest) := by
  induction cs generalizing found with
  | nil =>
      rw [List.append_nil]
      rfl
  | cons c cs ih =>
      rw [List.flatMap_cons, List.append_assoc, readEscaped_escapedChars, ih, List.reverse_cons,
        List.append_assoc]
      rfl

end Escapes

section Texts

theorem quotedChars_append (content : String) (rest : List Char) : quotedChars content ++ rest =
    doubleQuote :: (content.toList.flatMap escapedChars ++ doubleQuote :: rest) := by
  simp [quotedChars]

/-- What is escaped does not start with a quote. -/
theorem head_escapedChars : ∀ d ∈ (escapedChars c ++ rest).head?, d ≠ doubleQuote := by
  unfold escapedChars
  split
  · rintro _ ⟨⟩
    decide
  · rename_i plain
    split
    · rintro _ ⟨⟩
      decide
    · rintro _ ⟨⟩
      exact (not_or.1 plain).1

/-- A text starts with nothing whose first character is another one. -/
theorem startsWith_of_head {start : List Char} (other : ∀ d ∈ cs.head?, d ≠ c) :
    startsWith (c :: start) cs = false := by
  cases cs with
  | nil => rfl
  | cons d cs =>
      have unequal : (c == d) = false := beq_eq_false_iff_ne.2 (other d rfl).symm
      rw [startsWith, List.isPrefixOf, unequal, Bool.false_and]

/-- A text between quotes is read as the text, unless another quote follows. -/
theorem readText?_quotedChars (ends : ∀ c ∈ rest.head?, c ≠ doubleQuote) :
    readText? (quotedChars content ++ rest) = some (content, rest) := by
  have single : startsWith [doubleQuote, doubleQuote, doubleQuote]
      (quotedChars content ++ rest) = false := by
    rw [quotedChars_append]
    cases content.toList with
    | nil =>
        show startsWith [doubleQuote] rest = false
        exact startsWith_of_head ends
    | cons c cs =>
        rw [List.flatMap_cons, List.append_assoc]
        show startsWith [doubleQuote, doubleQuote] _ = false
        exact startsWith_of_head head_escapedChars
  have start : startsWith [doubleQuote] (quotedChars content ++ rest) = true := by
    rw [quotedChars_append]
    rfl
  rw [readText?, single, start, quotedChars_append]
  show ((readEscaped false .plain [] (_ ++ doubleQuote :: rest)).map _) = _
  rw [readEscaped_flatMap]
  simp

end Texts

section Names

theorem skipSpace_of_head (h : ∀ c ∈ cs.head?, isSpace c = false) : skipSpace cs = cs := by
  cases cs with
  | nil => rfl
  | cons c cs => exact List.dropWhile_cons_of_neg (Bool.eq_false_iff.1 (h c rfl))

/-- A part of a name starts with a character of a key or with a quote. -/
theorem exists_keyChars_eq_cons (part : String) :
    ∃ c cs, keyChars part = c :: cs ∧ (isKeyChar c = true ∨ c = doubleQuote) := by
  unfold keyChars
  split
  · rename_i bare
    obtain ⟨c, cs, same⟩ := List.exists_cons_of_ne_nil bare.1
    exact ⟨c, cs, same, .inl (List.all_eq_true.1 bare.2 c (same ▸ List.mem_cons_self))⟩
  · exact ⟨_, _, rfl, .inr rfl⟩

theorem isKeyChar_doubleQuote : isKeyChar doubleQuote = false := by
  decide

/-- A part of a name is read up to something that is no part of it. -/
theorem readKeyPart_keyChars (ends : ∀ c ∈ rest.head?, isKeyChar c = false) :
    readKeyPart (keyChars part ++ rest) = some (part, rest) := by
  unfold keyChars
  split
  · rename_i bare
    obtain ⟨c, cs, same⟩ := List.exists_cons_of_ne_nil bare.1
    have key : ∀ c ∈ part.toList, isKeyChar c = true := List.all_eq_true.1 bare.2
    rw [same] at key ⊢
    obtain ⟨first, others⟩ := List.forall_mem_cons.1 key
    rw [List.cons_append, readKeyPart, if_pos first, List.takeWhile_append_of_pos others,
      List.dropWhile_append_of_pos others]
    cases rest with
    | nil => simp [← same]
    | cons d rest =>
        have other := ends d rfl
        simp [other, ← same]
  · rw [quotedChars_append, readKeyPart, isKeyChar_doubleQuote, if_neg Bool.false_ne_true,
      if_neg (by decide), if_pos rfl, readEscaped_flatMap]
    simp

/-- What ends a dotted name: no further character of a part, and no point behind blanks. -/
structure EndsName (rest : List Char) : Prop where
  key : ∀ c ∈ rest.head?, isKeyChar c = false
  point : ∀ c ∈ (skipSpace rest).head?, c ≠ '.'

theorem isSpace_head_keyChars : ∀ c ∈ (keyChars part ++ rest).head?, isSpace c = false := by
  obtain ⟨c, cs, same, key | quote⟩ := exists_keyChars_eq_cons part
  · rw [same]
    rintro _ ⟨⟩
    refine Bool.eq_false_iff.2 fun blank => ?_
    have blank : c = ' ' ∨ c = '\t' := by simpa [isSpace] using blank
    rcases blank with rfl | rfl <;> cases key
  · rw [same, quote]
    rintro _ ⟨⟩
    decide

theorem readName?_point {steps : Nat} {path : Path} :
    readName? (steps + 1) path (keyChars part ++ '.' :: rest) =
      readName? steps (part :: path) (skipSpace rest) := by
  have ends : ∀ c ∈ ('.' :: rest).head?, isKeyChar c = false := by
    rintro _ ⟨⟩
    decide
  rw [readName?, readKeyPart_keyChars ends]
  rfl

/-- The parts of a name are read one by one, behind those that were found. -/
theorem readName?_keyChars {steps : Nat} {first : String} {others : List String} {path : Path}
    (enough : others.length < steps) (ends : EndsName rest) :
    readName? steps path
        (keyChars first ++ (others.flatMap (fun part => '.' :: keyChars part) ++ rest)) =
      some (path.reverse ++ first :: others, skipSpace rest) := by
  induction others generalizing steps first path with
  | nil =>
      obtain ⟨steps, rfl⟩ := Nat.exists_eq_add_one.2 enough
      rw [readName?, List.flatMap_nil, List.nil_append, readKeyPart_keyChars ends.key,
        Option.bind_eq_bind, Option.bind_some]
      dsimp only
      split
      · rename_i behind
        exact absurd rfl (ends.point '.' (by rw [behind]; rfl))
      · rw [List.reverse_cons]
  | cons second others ih =>
      obtain ⟨steps, rfl⟩ := Nat.exists_eq_add_one.2 (Nat.zero_lt_of_lt enough)
      have text : (second :: others).flatMap (fun part => '.' :: keyChars part) ++ rest = '.' ::
          (keyChars second ++ (others.flatMap (fun part => '.' :: keyChars part) ++ rest)) := by
        rw [List.flatMap_cons, List.cons_append, List.cons_append, List.append_assoc]
      rw [text, readName?_point, skipSpace_of_head isSpace_head_keyChars,
        ih (Nat.lt_of_succ_lt_succ enough), List.reverse_cons, List.append_assoc]
      rfl

theorem length_others_lt (name : Name) : name.others.length < name.chars.length := by
  obtain ⟨c, cs, same, -⟩ := exists_keyChars_eq_cons name.first
  have each (parts : List String) :
      parts.length ≤ (parts.flatMap fun part => '.' :: keyChars part).length := by
    induction parts with
    | nil => exact Nat.le_refl 0
    | cons part parts ih =>
        rw [List.flatMap_cons, List.length_append, List.length_cons, List.length_cons]
        omega
  have := each name.others
  rw [Name.chars, same, List.length_append, List.length_cons]
  omega

/-- A dotted name is read as the path of its parts. -/
theorem Name.readName?_chars {steps : Nat} (name : Name) (enough : name.chars.length ≤ steps)
    (ends : EndsName rest) :
    readName? steps [] (name.chars ++ rest) = some (name.path, skipSpace rest) := by
  have few := Nat.lt_of_lt_of_le (length_others_lt name) enough
  rw [chars, List.append_assoc, readName?_keyChars few ends]
  rfl

end Names

end Reckoner.Toml
