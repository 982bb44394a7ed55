import Reckoner.Proofs.Token.Lexeme

/-!
# Scanning recovers the spelling

A text splits into tokens exactly when it is spelled, it has one spelling only, and the tokens are
those of the spelling.

## Implementation notes

That words are kept apart is a condition on the layout between two pieces, while scanning looks at
the first character behind a lexeme.  `Detached` is the second view, and the two are equivalent for
pieces that are lexical.
-/

namespace Reckoner

open Text (isLayout)
open Token

namespace Spelling

variable {piece : Piece} {pieces : List Piece} {trailing : List Char} {kind : TokenKind}
  {word : Bool}

theorem text_nil : text ⟨[], trailing⟩ = trailing := rfl

theorem text_cons : text ⟨piece :: pieces, trailing⟩ =
    piece.layout ++ (piece.lexeme ++ text ⟨pieces, trailing⟩) := by
  simp [text]

theorem lexical_cons : Lexical ⟨piece :: pieces, trailing⟩ ↔
    ((∀ c ∈ piece.layout, isLayout c = true) ∧ IsLexeme piece.kind piece.lexeme) ∧
      Lexical ⟨pieces, trailing⟩ := by
  simp [Lexical, and_assoc]

/-- A word starts with a character that would touch a word in front of it. -/
theorem touches_of_isLexeme {lexeme following : List Char} {c : Char}
    (h : IsLexeme piece.kind lexeme) (word : piece.kind.isWord = true)
    (found : lexeme = c :: following) (front : kind.isWord = true) : touches kind c = true := by
  apply touches_of_starts_word front
  generalize piece.kind = spelled at h word
  cases h with
  | number numeral =>
      obtain ⟨d, others, same, start⟩ := starts_of_isNumeral numeral
      cases found.symm.trans same
      exact .inl start
  | name name =>
      obtain ⟨d, others, same, letter⟩ := starts_of_isName name
      cases found.symm.trans same
      exact .inr letter
  | _ => cases word

/-- Pieces that are kept apart from a lexeme in front of them do not touch it. -/
theorem detached_of_separated (lexical : Lexical ⟨pieces, trailing⟩)
    (separated : SeparatedFrom kind.isWord pieces) : Detached kind (text ⟨pieces, trailing⟩) := by
  intro c following found
  cases pieces with
  | nil =>
      rw [text_nil] at found
      exact not_touches_of_isLayout (lexical.2 c (by simp [found]))
  | cons piece pieces =>
      rw [text_cons] at found
      obtain ⟨⟨layout, lexeme⟩, _⟩ := lexical_cons.1 lexical
      cases front : piece.layout with
      | cons d others =>
          rw [front] at found
          cases List.head_eq_of_cons_eq found
          exact not_touches_of_isLayout (layout c (by simp [front]))
      | nil =>
          cases word : kind.isWord with
          | false => exact touches_symbol word
          | true =>
              have single : piece.kind.isWord = false := by
                cases kept : piece.kind.isWord with
                | false => rfl
                | true => exact absurd front (separated.1 word kept)
              obtain ⟨d, same⟩ := singleton_of_isLexeme lexeme single
              rw [front, same] at found
              cases List.head_eq_of_cons_eq found
              exact not_touches_of_ofSymbol? (ofSymbol?_eq_some_iff.2 ⟨same ▸ lexeme, single⟩)

/-- Pieces that do not touch a lexeme in front of them are kept apart from it. -/
theorem separated_of_detached (lexical : Lexical ⟨pieces, trailing⟩)
    (separated : SeparatedFrom word pieces) (detached : Detached kind (text ⟨pieces, trailing⟩)) :
    SeparatedFrom kind.isWord pieces := by
  cases pieces with
  | nil => trivial
  | cons piece pieces =>
      obtain ⟨⟨_, lexeme⟩, _⟩ := lexical_cons.1 lexical
      constructor
      · intro front kept empty
        obtain ⟨c, following, same, _⟩ := starts_of_isLexeme lexeme
        have apart := detached c _ (by rw [text_cons, empty, same]; rfl)
        exact Bool.false_ne_true (apart.symm.trans (touches_of_isLexeme lexeme kept same front))
      · exact separated.2

/-- Layout in front of the first lexeme, or at the end where there is none. -/
def behind (c : Char) : Spelling → Spelling
  | ⟨[], trailing⟩ => ⟨[], c :: trailing⟩
  | ⟨piece :: pieces, trailing⟩ => ⟨{ piece with layout := c :: piece.layout } :: pieces, trailing⟩

section Behind

variable {spelling : Spelling} {c : Char}

theorem text_behind : text (behind c spelling) = c :: text spelling := by
  rcases spelling with ⟨_ | ⟨piece, pieces⟩, trailing⟩ <;> rfl

theorem lexical_behind (layout : isLayout c = true) (h : Lexical spelling) :
    Lexical (behind c spelling) := by
  rcases spelling with ⟨_ | ⟨piece, pieces⟩, trailing⟩
  · exact ⟨h.1, List.forall_mem_cons.2 ⟨layout, h.2⟩⟩
  · obtain ⟨⟨front, lexeme⟩, others⟩ := lexical_cons.1 h
    exact lexical_cons.2 ⟨⟨List.forall_mem_cons.2 ⟨layout, front⟩, lexeme⟩, others⟩

theorem separated_behind (h : SeparatedFrom word spelling.pieces) :
    SeparatedFrom word (behind c spelling).pieces := by
  rcases spelling with ⟨_ | ⟨piece, pieces⟩, trailing⟩
  · trivial
  · exact ⟨fun _ _ => List.cons_ne_nil _ _, h.2⟩

theorem tokensFrom_behind {offset : Nat} :
    tokensFrom (behind c spelling).trailing.length offset (behind c spelling).pieces =
      tokensFrom spelling.trailing.length (offset + 1) spelling.pieces := by
  rcases spelling with ⟨_ | ⟨piece, pieces⟩, trailing⟩
  · simp only [behind, tokensFrom, List.length_cons, Nat.add_assoc, Nat.add_comm 1]
  · simp only [behind, tokensFrom, List.length_cons, Nat.add_assoc, Nat.add_comm 1]

end Behind

theorem tokensFrom_ne_nil {length offset : Nat} : tokensFrom length offset pieces ≠ [] := by
  cases pieces <;> simp [tokensFrom]

/-- A text and its tokens determine the spelling. -/
theorem eq_of_tokensFrom_eq {others : List Piece} {rest : List Char} {offset : Nat}
    (sameText : text ⟨pieces, trailing⟩ = text ⟨others, rest⟩)
    (sameTokens : tokensFrom trailing.length offset pieces =
      tokensFrom rest.length offset others) :
    (⟨pieces, trailing⟩ : Spelling) = ⟨others, rest⟩ := by
  induction pieces generalizing others offset with
  | nil =>
      cases others with
      | nil => exact congrArg _ sameText
      | cons piece others => exact absurd (List.cons.inj sameTokens).2.symm tokensFrom_ne_nil
  | cons piece pieces ih =>
      cases others with
      | nil => exact absurd (List.cons.inj sameTokens).2 tokensFrom_ne_nil
      | cons other others =>
          obtain ⟨head, tail⟩ := List.cons.inj sameTokens
          obtain ⟨kind, spelled, position⟩ := Token.mk.inj head
          have lexeme : piece.lexeme = other.lexeme := String.ofList_injective spelled
          have width : piece.layout.length = other.layout.length := by omega
          rw [text_cons, text_cons] at sameText
          obtain ⟨layout, behind⟩ := List.append_inj sameText width
          rw [lexeme] at behind tail
          rw [width] at tail
          cases ih (List.append_cancel_left behind) tail
          cases piece
          cases other
          cases layout
          cases lexeme
          cases kind
          rfl

/-- The tokens of a spelling are those of its lexemes and the one that ends them. -/
theorem tokensFrom_eq_append {offset : Nat} (lexical : Lexical ⟨pieces, trailing⟩) :
    ∃ front, tokensFrom trailing.length offset pieces =
        front ++ [⟨.finish, "", (offset + (text ⟨pieces, trailing⟩).length : Nat)⟩] ∧
      ∀ token ∈ front, IsLexeme token.kind token.text.toList := by
  induction pieces generalizing offset with
  | nil => exact ⟨[], rfl, nofun⟩
  | cons piece pieces ih =>
      obtain ⟨⟨_, lexeme⟩, lexical⟩ := lexical_cons.1 lexical
      obtain ⟨front, same, lexemes⟩ :=
        @ih (offset + piece.layout.length + piece.lexeme.length) lexical
      refine ⟨⟨piece.kind, String.ofList piece.lexeme, (offset + piece.layout.length : Nat)⟩ ::
        front, ?_, List.forall_mem_cons.2 ⟨by simpa using lexeme, lexemes⟩⟩
      rw [tokensFrom, same, text_cons]
      simp only [List.length_append, List.cons_append, Nat.add_assoc]

/-- Each token starts behind the tokens in front of it. -/
theorem pairwise_tokensFrom {offset : Nat} (lexical : Lexical ⟨pieces, trailing⟩) :
    (tokensFrom trailing.length offset pieces).Pairwise (fun t u => t.position < u.position) ∧
      ∀ t ∈ tokensFrom trailing.length offset pieces, (offset : Int) ≤ t.position := by
  induction pieces generalizing offset with
  | nil =>
      refine ⟨List.pairwise_singleton _ _, ?_⟩
      simp only [tokensFrom, List.mem_singleton, forall_eq]
      omega
  | cons piece pieces ih =>
      obtain ⟨⟨_, lexeme⟩, lexical⟩ := lexical_cons.1 lexical
      obtain ⟨c, others, same, _⟩ := starts_of_isLexeme lexeme
      have positive : 0 < piece.lexeme.length := by simp [same]
      obtain ⟨increasing, least⟩ :=
        @ih (offset + piece.layout.length + piece.lexeme.length) lexical
      rw [tokensFrom, List.pairwise_cons, List.forall_mem_cons]
      refine ⟨⟨fun t mem => ?_, increasing⟩,
        Int.ofNat_le.2 (Nat.le_add_right _ _), fun t mem => ?_⟩
      · have := least t mem
        push_cast at this ⊢
        omega
      · have := least t mem
        push_cast at this
        omega

end Spelling

namespace Token

open Spelling

variable {position : Nat} {found tokens : List Token} {cs : List Char}

/-- Layout moves the offset of what follows. -/
theorem scanFrom_layout {layout : List Char} (h : ∀ c ∈ layout, isLayout c = true) :
    scanFrom position found (layout ++ cs) = scanFrom (position + layout.length) found cs := by
  induction layout generalizing position with
  | nil => rfl
  | cons c others ih =>
      rw [List.cons_append, scanFrom, if_pos (h c List.mem_cons_self),
        ih fun d mem => h d (List.mem_cons_of_mem c mem), List.length_cons]
      congr 1
      omega

/-- A lexeme becomes the next token. -/
theorem scanFrom_lexeme {kind : TokenKind} {lexeme rest : List Char} (h : IsLexeme kind lexeme)
    (detached : Detached kind rest) :
    scanFrom position found (lexeme ++ rest) =
      scanFrom (position + lexeme.length)
        (⟨kind, String.ofList lexeme, position⟩ :: found) rest := by
  obtain ⟨c, others, same, start⟩ := starts_of_isLexeme h
  have whole : lexeme ++ rest = c :: (others ++ rest) := by rw [same, List.cons_append]
  have read : readLexeme position c (others ++ rest) = _ :=
    readLexeme_of_isLexeme h whole detached
  rw [whole, scanFrom, if_neg (by simp [start])]
  split
  · rename_i cause failed
    cases read.symm.trans failed
  · rename_i lexeme' succeeded
    cases read.symm.trans succeeded
    rfl

/-- A text that is spelled is scanned into the tokens of the spelling. -/
theorem scanFrom_text {pieces : List Piece} {trailing : List Char} {word : Bool}
    (lexical : Lexical ⟨pieces, trailing⟩) (separated : SeparatedFrom word pieces) :
    scanFrom position found (Spelling.text ⟨pieces, trailing⟩) =
      .ok (found.reverse ++ tokensFrom trailing.length position pieces) := by
  induction pieces generalizing position found word with
  | nil =>
      have layout : scanFrom position found (trailing ++ []) = _ := scanFrom_layout lexical.2
      rw [List.append_nil] at layout
      rw [text_nil, layout, scanFrom, tokensFrom]
  | cons piece pieces ih =>
      obtain ⟨⟨layout, lexeme⟩, others⟩ := lexical_cons.1 lexical
      rw [text_cons, scanFrom_layout layout,
        scanFrom_lexeme lexeme (detached_of_separated others separated.2),
        ih others separated.2, List.reverse_cons, List.append_assoc, List.singleton_append,
        tokensFrom]

/-- A text that is scanned is spelled, and the tokens are those of the spelling. -/
theorem spelled_of_scanFrom (h : scanFrom position found cs = .ok tokens) :
    ∃ spelling : Spelling, spelling.Lexical ∧ spelling.Separated ∧ spelling.text = cs ∧
      tokens = found.reverse ++ tokensFrom spelling.trailing.length position spelling.pieces := by
  fun_induction scanFrom position found cs with
  | case1 position found =>
      cases h
      exact ⟨⟨[], []⟩, ⟨nofun, nofun⟩, trivial, rfl, rfl⟩
  | case2 position found c following layout ih =>
      obtain ⟨spelling, lexical, separated, rfl, rfl⟩ := ih h
      refine ⟨behind c spelling, lexical_behind layout lexical, separated_behind separated,
        text_behind, ?_⟩
      rw [tokensFrom_behind]
  | case3 => cases h
  | case4 position found c following _ lexeme read ih =>
      obtain ⟨⟨pieces, trailing⟩, lexical, separated, spelled, rfl⟩ := ih h
      obtain ⟨isLexeme, whole, detached⟩ := isLexeme_of_readLexeme read
      refine ⟨⟨⟨[], lexeme.kind, lexeme.text⟩ :: pieces, trailing⟩,
        lexical_cons.2 ⟨⟨nofun, isLexeme⟩, lexical⟩, ⟨nofun, ?_⟩, ?_, ?_⟩
      · exact separated_of_detached lexical separated (spelled ▸ detached)
      · rw [text_cons, spelled, ← whole, List.nil_append]
      · simp [tokensFrom]

/-- A scanned list of tokens is made of lexemes and ends with the token of the end. -/
theorem eq_append_of_scan {source : String} (h : scan source = .ok tokens) :
    ∃ front, tokens = front ++ [⟨.finish, "", source.length⟩] ∧
      ∀ token ∈ front, IsLexeme token.kind token.text.toList := by
  obtain ⟨⟨pieces, trailing⟩, lexical, _, same, rfl⟩ := spelled_of_scanFrom h
  obtain ⟨front, tokens, lexemes⟩ := tokensFrom_eq_append lexical
  refine ⟨front, ?_, lexemes⟩
  rw [List.reverse_nil, List.nil_append, tokens, same, Nat.zero_add, String.length_toList]

/-- The positions of scanned tokens increase. -/
theorem pairwise_of_scan {source : String} (h : scan source = .ok tokens) :
    tokens.Pairwise fun t u => t.position < u.position := by
  obtain ⟨spelling, lexical, _, _, rfl⟩ := spelled_of_scanFrom h
  exact (pairwise_tokensFrom lexical).1

/-- Scanning accepts the lexical language, and it answers with the tokens of the only spelling. -/
theorem scan_eq_ok_iff_spelled (source : String) :
    (∀ tokens, scan source = .ok tokens ↔ ∃ spelling : Spelling,
      spelling.Lexical ∧ spelling.Separated ∧ spelling.text = source.toList ∧
        spelling.tokens = tokens) ∧
    (∀ spelling other : Spelling, spelling.Lexical → spelling.Separated →
      spelling.text = source.toList → other.Lexical → other.Separated →
      other.text = source.toList → spelling = other) ∧
    ∀ tokens, scan source = .ok tokens →
      ∃ front, tokens = front ++ [⟨.finish, "", source.length⟩] ∧
        ∀ token ∈ front, token.kind ≠ .finish := by
  refine ⟨?_, ?_, ?_⟩
  · intro tokens
    constructor
    · intro h
      obtain ⟨spelling, lexical, separated, same, rfl⟩ := spelled_of_scanFrom h
      exact ⟨spelling, lexical, separated, same, rfl⟩
    · rintro ⟨spelling, lexical, separated, same, rfl⟩
      rw [scan, ← same]
      exact scanFrom_text lexical separated
  · intro spelling other lexical separated same lexical' separated' same'
    have scanned : scanFrom 0 [] source.toList = _ := same ▸ scanFrom_text lexical separated
    have scanned' : scanFrom 0 [] source.toList = _ := same' ▸ scanFrom_text lexical' separated'
    exact eq_of_tokensFrom_eq (same.trans same'.symm)
      (Except.ok.inj (scanned.symm.trans scanned'))
  · intro tokens h
    obtain ⟨front, same, lexemes⟩ := eq_append_of_scan h
    exact ⟨front, same, fun token mem => ne_finish_of_isLexeme (lexemes token mem)⟩

end Token

end Reckoner
