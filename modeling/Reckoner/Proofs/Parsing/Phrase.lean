import Reckoner.Proofs.Parsing.Grammar
import Reckoner.Proofs.Token.Words

/-!
# Phrases

The grammar read on texts: a text is a phrase for a tree when its words derive the tree.  A text is
parsed as a tree exactly when it is a phrase for it whose nesting stays under the limit, so that
texts can be put together from phrases without another look at scanning or parsing.

## Implementation notes

A derivation looks at the kinds and the texts of its tokens only, and a phrase asks for one on every
list of tokens with its words.  The nesting of a phrase is an upper bound, which is what a scope has
to have room for.
-/

namespace Reckoner

open Token Parsing
open Text (isLayout)

section Congruence

theorem Token.eq_of_word_eq {t u : Token} (h : u.word = t.word) :
    u.kind = t.kind ∧ u.text = t.text :=
  Prod.mk.inj h

/-- Tokens with the words of others are taken apart where the others are. -/
theorem Token.exists_split {ts vs us : List Token} {t : Token}
    (same : us.map word = (ts ++ t :: vs).map word) :
    ∃ before u behind, us = before ++ u :: behind ∧ before.map word = ts.map word ∧
      u.word = t.word ∧ behind.map word = vs.map word := by
  rw [List.map_append, List.map_cons, List.map_eq_append_iff] at same
  obtain ⟨before, rest, rfl, front, back⟩ := same
  obtain ⟨u, behind, rfl, mark, back⟩ := List.map_eq_cons_iff.1 back
  exact ⟨before, u, behind, rfl, front, mark, back⟩

mutual

/-- A derivation does not look at positions. -/
theorem derives_congr {rule : Rule} {n : Nat} {ts us : List Token} {e : Expr}
    (h : Derives rule n ts e) (same : us.map word = ts.map word) : Derives rule n us e := by
  match h with
  | .term derived => exact .term (derives_congr derived same)
  | .factor derived => exact .factor (derives_congr derived same)
  | .power derived => exact .power (derives_congr derived same)
  | .operand derived => exact .operand (derives_congr derived same)
  | .add left kind right | .sub left kind right =>
      obtain ⟨before, u, behind, rfl, front, mark, back⟩ := exists_split same
      exact .additive (by rw [(eq_of_word_eq mark).1, kind]; rfl) (derives_congr left front)
        (derives_congr right back)
  | .mul left kind right | .div left kind right =>
      obtain ⟨before, u, behind, rfl, front, mark, back⟩ := exists_split same
      exact .multiplicative (by rw [(eq_of_word_eq mark).1, kind]; rfl) (derives_congr left front)
        (derives_congr right back)
  | .raise left kind right =>
      obtain ⟨before, u, behind, rfl, front, mark, back⟩ := exists_split same
      exact .raise (derives_congr left front) ((eq_of_word_eq mark).1.trans kind)
        (derives_congr right back)
  | .negate kind derived =>
      obtain ⟨u, behind, rfl, mark, back⟩ := List.map_eq_cons_iff.1 same
      exact .negate ((eq_of_word_eq mark).1.trans kind) (derives_congr derived back)
  | .number kind read =>
      obtain ⟨u, rfl, mark⟩ := List.map_eq_singleton_iff.1 same
      obtain ⟨sameKind, sameText⟩ := eq_of_word_eq mark
      exact .number (sameKind.trans kind) (sameText ▸ read)
  | .constant c kind spelled =>
      obtain ⟨u, rfl, mark⟩ := List.map_eq_singleton_iff.1 same
      obtain ⟨sameKind, sameText⟩ := eq_of_word_eq mark
      exact .constant c (sameKind.trans kind) (sameText.trans spelled)
  | .group opening derived closing =>
      obtain ⟨u, rest, rfl, mark, back⟩ := List.map_eq_cons_iff.1 same
      obtain ⟨before, v, behind, rfl, front, mark', back'⟩ := exists_split back
      cases List.map_eq_nil_iff.1 back'
      exact .group ((eq_of_word_eq mark).1.trans opening) (derives_congr derived front)
        ((eq_of_word_eq mark').1.trans closing)
  | .call f kind spelled opening derived closing count =>
      obtain ⟨u, rest, rfl, mark, back⟩ := List.map_eq_cons_iff.1 same
      obtain ⟨v, rest, rfl, mark', back⟩ := List.map_eq_cons_iff.1 back
      obtain ⟨before, w, behind, rfl, front, mark'', back'⟩ := exists_split back
      cases List.map_eq_nil_iff.1 back'
      obtain ⟨sameKind, sameText⟩ := eq_of_word_eq mark
      exact .call f (sameKind.trans kind) (sameText.trans spelled)
        ((eq_of_word_eq mark').1.trans opening) (derivesAll_congr derived front)
        ((eq_of_word_eq mark'').1.trans closing) count

/-- Nor does a derivation of arguments. -/
theorem derivesAll_congr {n : Nat} {ts us : List Token} {es : List Expr}
    (h : DerivesAll n ts es) (same : us.map word = ts.map word) : DerivesAll n us es := by
  match h with
  | .one derived => exact .one (derives_congr derived same)
  | .more first kind others =>
      obtain ⟨before, u, behind, rfl, front, mark, back⟩ := exists_split same
      exact .more (derives_congr first front) ((eq_of_word_eq mark).1.trans kind)
        (derivesAll_congr others back)

end

end Congruence

/-- The text spells words that derive the tree by the rule, with at most the given nesting. -/
def Phrase (rule : Rule) (n : Nat) (cs : List Char) (e : Expr) : Prop :=
  ∃ words, Spells cs words ∧
    ∀ ts : List Token, ts.map word = words → ∃ k ≤ n, Derives rule k ts e

/-- The text spells words that derive the trees, separated by commas, with at most the given
nesting. -/
def PhraseAll (n : Nat) (cs : List Char) (es : List Expr) : Prop :=
  ∃ words, Spells cs words ∧ ∀ ts : List Token, ts.map word = words → ∃ k ≤ n, DerivesAll k ts es

/-- The kind of token that an operator is written with. -/
def Operator.mark : Operator → TokenKind
  | .add => .plus
  | .sub => .minus
  | .mul => .star
  | .div => .slash
  | .pow => .caret

/-- An operator is written with one character, which is a token of its own. -/
theorem Operator.isLexeme_mark (operator : Operator) :
    ∃ c, operator.symbol.toList = [c] ∧ IsLexeme operator.mark [c] ∧
      operator.mark.isWord = false := by
  cases operator with
  | add => exact ⟨'+', rfl, .plus, rfl⟩
  | sub => exact ⟨'-', rfl, .minus, rfl⟩
  | mul => exact ⟨'*', rfl, .star, rfl⟩
  | div => exact ⟨'/', rfl, .slash, rfl⟩
  | pow => exact ⟨'^', rfl, .caret, rfl⟩

theorem Builtin.isName_name (function : Builtin) : IsName function.name.toList := by
  cases function <;> exact isName_of_all (by decide) rfl

theorem Constant.isName_name (constant : Constant) : IsName constant.name.toList := by
  cases constant <;> exact isName_of_all (by decide) rfl

section Spells

variable {cs ds : List Char} {us vs : List Word}

theorem Spells.group (h : Spells cs us) : Spells ('(' :: (cs ++ [')']))
    ((.leftParen, "(") :: (us ++ [(.rightParen, ")")])) :=
  .symbol .leftParen rfl (h.append (fun _ => .symbol .rightParen rfl) (.single .rightParen))

/-- An operator, or layout in front of it, touches nothing. -/
theorem Operator.detached (operator : Operator) {gap : List Char}
    (blank : ∀ c ∈ gap, isLayout c = true) (rest : List Char) (kind : TokenKind) :
    Detached kind (gap ++ (operator.symbol.toList ++ rest)) := by
  obtain ⟨c, symbol, lexeme, single⟩ := operator.isLexeme_mark
  rw [symbol]
  cases gap with
  | nil => exact .symbol lexeme single
  | cons d others => exact .layout (blank d List.mem_cons_self)

/-- Layout may surround an operator. -/
theorem Spells.binary (operator : Operator) (left : Spells cs us) (gap : List Char)
    (blank : ∀ c ∈ gap, isLayout c = true) (gap' : List Char)
    (blank' : ∀ c ∈ gap', isLayout c = true) (right : Spells ds vs) :
    Spells (cs ++ (gap ++ (operator.symbol.toList ++ (gap' ++ ds))))
      (us ++ (operator.mark, operator.symbol) :: vs) := by
  apply left.append (operator.detached blank _)
  obtain ⟨c, symbol, lexeme, single⟩ := operator.isLexeme_mark
  have text : String.ofList [c] = operator.symbol := by rw [← symbol, String.ofList_toList]
  rw [symbol, List.singleton_append, ← text]
  exact .gap blank (.symbol lexeme single (.gap blank' right))

/-- Layout may follow a comma. -/
theorem Spells.comma (first : Spells cs us) (gap : List Char)
    (blank : ∀ c ∈ gap, isLayout c = true) (others : Spells ds vs) :
    Spells (cs ++ ',' :: (gap ++ ds)) (us ++ (.comma, ",") :: vs) :=
  first.append (fun _ => .symbol .comma rfl) (.symbol .comma rfl (.gap blank others))

theorem Spells.call (function : Builtin) (h : Spells cs us) :
    Spells (function.name.toList ++ '(' :: (cs ++ [')']))
      ((.name, function.name) :: (.leftParen, "(") :: (us ++ [(.rightParen, ")")])) := by
  have name := Spells.lexeme (.name function.isName_name) (.symbol .leftParen rfl) h.group
  rwa [String.ofList_toList] at name

theorem Breaks.group (h : Breaks cs) : Breaks ('(' :: (cs ++ [')'])) :=
  .symbol .leftParen rfl (h.append _)

/-- A right operand that breaks, behind a left one that does not. -/
theorem Breaks.binary (operator : Operator) (left : Spells cs us) (gap : List Char)
    (blank : ∀ c ∈ gap, isLayout c = true) (gap' : List Char)
    (blank' : ∀ c ∈ gap', isLayout c = true) (right : Breaks ds) :
    Breaks (cs ++ (gap ++ (operator.symbol.toList ++ (gap' ++ ds)))) := by
  apply left.breaks_append (operator.detached blank _)
  obtain ⟨c, symbol, lexeme, single⟩ := operator.isLexeme_mark
  rw [symbol, List.singleton_append]
  exact .gap blank (.symbol lexeme single (.gap blank' right))

/-- An argument that breaks, behind one that does not. -/
theorem Breaks.comma (first : Spells cs us) (gap : List Char)
    (blank : ∀ c ∈ gap, isLayout c = true) (others : Breaks ds) :
    Breaks (cs ++ ',' :: (gap ++ ds)) :=
  first.breaks_append (fun _ => .symbol .comma rfl) (.symbol .comma rfl (.gap blank others))

theorem Breaks.call (function : Builtin) (h : Breaks cs) :
    Breaks (function.name.toList ++ '(' :: (cs ++ [')'])) :=
  .lexeme (.name function.isName_name) (.symbol .leftParen rfl) h.group

end Spells

section Derives

variable {m n : Nat} {ts us : List Token} {t : Token} {l r e : Expr}

theorem Derives.of_operand (h : Derives .operand n ts e) : Derives .expression n ts e :=
  .term (.factor (.power (.operand h)))

/-- Two operands with an operator between them; only an exponent nests deeper. -/
theorem Derives.binary {operator : Operator} (left : Derives .operand m ts l)
    (kind : t.kind = operator.mark) (right : Derives .operand n us r) :
    ∃ k ≤ max m (n + 1), Derives .expression k (ts ++ t :: us) (.binary operator l r) := by
  have factor : Derives .factor n us r := .power (.operand right)
  have bound : max m n ≤ max m (n + 1) := by omega
  cases operator with
  | add => exact ⟨_, bound, .add left.of_operand kind (.factor factor)⟩
  | sub => exact ⟨_, bound, .sub left.of_operand kind (.factor factor)⟩
  | mul => exact ⟨_, bound, .term (.mul (.factor (.power (.operand left))) kind factor)⟩
  | div => exact ⟨_, bound, .term (.div (.factor (.power (.operand left))) kind factor)⟩
  | pow => exact ⟨_, Nat.le_refl _, .term (.factor (.power (.raise left kind factor)))⟩

end Derives

section Phrase

variable {rule : Rule} {m n : Nat} {cs ds : List Char} {l r e : Expr} {es : List Expr}

theorem Phrase.mono (h : Phrase rule m cs e) (le : m ≤ n) : Phrase rule n cs e := by
  obtain ⟨words, spelled, derived⟩ := h
  refine ⟨words, spelled, fun ts same => ?_⟩
  obtain ⟨k, bound, d⟩ := derived ts same
  exact ⟨k, Nat.le_trans bound le, d⟩

/-- Some tokens derive the tree of a phrase. -/
theorem Phrase.exists_derives (h : Phrase rule n cs e) : ∃ k ≤ n, ∃ ts, Derives rule k ts e := by
  obtain ⟨words, _, derived⟩ := h
  have same : (words.map fun w => (⟨w.1, w.2, 0⟩ : Token)).map word = words := by
    rw [List.map_map]
    exact List.map_id words
  obtain ⟨k, bound, d⟩ := derived _ same
  exact ⟨k, bound, _, d⟩

/-- A phrase of a rule is one of every rule that hands on to it. -/
theorem Phrase.lift {other : Rule} (h : Phrase rule n cs e)
    (derive : ∀ {k ts}, Derives rule k ts e → Derives other k ts e) : Phrase other n cs e := by
  obtain ⟨words, spelled, derived⟩ := h
  refine ⟨words, spelled, fun ts same => ?_⟩
  obtain ⟨k, bound, d⟩ := derived ts same
  exact ⟨k, bound, derive d⟩

theorem Phrase.of_operand (h : Phrase .operand n cs e) : Phrase .expression n cs e :=
  h.lift Derives.of_operand

theorem Phrase.number {x : Binary64} (numeral : IsNumeral cs)
    (read : Decimal.readNumber? (String.ofList cs) = some x) :
    Phrase .operand 0 cs (.number x) := by
  refine ⟨_, .single (.number numeral), fun ts same => ?_⟩
  obtain ⟨t, rfl, mark⟩ := List.map_eq_singleton_iff.1 same
  obtain ⟨kind, text⟩ := Prod.mk.inj mark
  exact ⟨0, Nat.le_refl 0, .number kind (text ▸ read)⟩

theorem Phrase.constant (c : Constant) :
    Phrase .operand 0 c.name.toList (.constant c.name c.value) := by
  refine ⟨_, .single (.name c.isName_name), fun ts same => ?_⟩
  obtain ⟨t, rfl, mark⟩ := List.map_eq_singleton_iff.1 same
  obtain ⟨kind, text⟩ := Prod.mk.inj mark
  exact ⟨0, Nat.le_refl 0, .constant c kind (text.trans String.ofList_toList)⟩

/-- A phrase in parentheses. -/
theorem Phrase.group (h : Phrase .expression n cs e) :
    Phrase .operand (n + 1) ('(' :: (cs ++ [')'])) e := by
  obtain ⟨words, spelled, derived⟩ := h
  refine ⟨_, spelled.group, fun ts same => ?_⟩
  obtain ⟨left, rest, rfl, mark, back⟩ := List.map_eq_cons_iff.1 same
  obtain ⟨inner, behind, rfl, front, back⟩ := List.map_eq_append_iff.1 back
  obtain ⟨right, rfl, mark'⟩ := List.map_eq_singleton_iff.1 back
  obtain ⟨k, bound, d⟩ := derived inner front
  exact ⟨k + 1, Nat.succ_le_succ bound, .group (Prod.mk.inj mark).1 d (Prod.mk.inj mark').1⟩

/-- A minus sign in front of an operand. -/
theorem Phrase.negate (h : Phrase .operand n cs e) :
    Phrase .expression (n + 1) ('-' :: cs) (.negate e) := by
  obtain ⟨words, spelled, derived⟩ := h
  refine ⟨_, .symbol .minus rfl spelled, fun ts same => ?_⟩
  obtain ⟨sign, rest, rfl, mark, back⟩ := List.map_eq_cons_iff.1 same
  obtain ⟨k, bound, d⟩ := derived rest back
  exact ⟨k + 1, Nat.succ_le_succ bound,
    .term (.factor (.negate (Prod.mk.inj mark).1 (.power (.operand d))))⟩

/-- Two phrases around an operator, which layout may surround, are a phrase of a rule that joins
their derivations. -/
theorem Phrase.join {first second : Rule} {k : Nat} (operator : Operator)
    (left : Phrase first m cs l) (gap : List Char) (blank : ∀ c ∈ gap, isLayout c = true)
    (gap' : List Char) (blank' : ∀ c ∈ gap', isLayout c = true) (right : Phrase second n ds r)
    (derive : ∀ {i j ts us t}, i ≤ m → j ≤ n → Derives first i ts l → t.kind = operator.mark →
      Derives second j us r → ∃ p ≤ k, Derives rule p (ts ++ t :: us) (.binary operator l r)) :
    Phrase rule k (cs ++ (gap ++ (operator.symbol.toList ++ (gap' ++ ds))))
      (.binary operator l r) := by
  obtain ⟨words, spelled, derived⟩ := left
  obtain ⟨words', spelled', derived'⟩ := right
  refine ⟨_, spelled.binary operator gap blank gap' blank' spelled', fun ts same => ?_⟩
  obtain ⟨before, rest, rfl, front, back⟩ := List.map_eq_append_iff.1 same
  obtain ⟨t, behind, rfl, mark, back⟩ := List.map_eq_cons_iff.1 back
  obtain ⟨i, bound, d⟩ := derived before front
  obtain ⟨j, bound', d'⟩ := derived' behind back
  exact derive bound bound' d (Prod.mk.inj mark).1 d'

/-- Two operands around an operator, which layout may surround. -/
theorem Phrase.binary (operator : Operator) (left : Phrase .operand m cs l)
    (gap : List Char) (blank : ∀ c ∈ gap, isLayout c = true)
    (gap' : List Char) (blank' : ∀ c ∈ gap', isLayout c = true) (right : Phrase .operand n ds r) :
    Phrase .expression (max m (n + 1)) (cs ++ (gap ++ (operator.symbol.toList ++ (gap' ++ ds))))
      (.binary operator l r) := by
  apply left.join operator gap blank gap' blank' right
  intro i j ts us t bound bound' d kind d'
  obtain ⟨k, least, joined⟩ := d.binary kind d'
  exact ⟨k, by omega, joined⟩

/-- A sum with a further term. -/
theorem Phrase.add (left : Phrase .expression m cs l) (right : Phrase .term n ds r) :
    Phrase .expression (max m n) (cs ++ '+' :: ds) (.binary .add l r) := by
  apply left.join .add [] nofun [] nofun right
  intro i j ts us t bound bound' d kind d'
  exact ⟨_, by omega, .add d kind d'⟩

/-- A product with a further factor. -/
theorem Phrase.mul (left : Phrase .term m cs l) (right : Phrase .factor n ds r) :
    Phrase .term (max m n) (cs ++ '*' :: ds) (.binary .mul l r) := by
  apply left.join .mul [] nofun [] nofun right
  intro i j ts us t bound bound' d kind d'
  exact ⟨_, by omega, .mul d kind d'⟩

/-- An operand with an exponent. -/
theorem Phrase.raise (left : Phrase .operand m cs l) (right : Phrase .factor n ds r) :
    Phrase .power (max m (n + 1)) (cs ++ '^' :: ds) (.binary .pow l r) := by
  apply left.join .pow [] nofun [] nofun right
  intro i j ts us t bound bound' d kind d'
  exact ⟨_, by omega, .raise d kind d'⟩

theorem PhraseAll.one (h : Phrase .expression n cs e) : PhraseAll n cs [e] := by
  obtain ⟨words, spelled, derived⟩ := h
  refine ⟨words, spelled, fun ts same => ?_⟩
  obtain ⟨k, bound, d⟩ := derived ts same
  exact ⟨k, bound, .one d⟩

/-- One more argument in front of others, with layout behind the comma. -/
theorem PhraseAll.more (first : Phrase .expression m cs e) (gap : List Char)
    (blank : ∀ c ∈ gap, isLayout c = true) (others : PhraseAll n ds es) :
    PhraseAll (max m n) (cs ++ ',' :: (gap ++ ds)) (e :: es) := by
  obtain ⟨words, spelled, derived⟩ := first
  obtain ⟨words', spelled', derived'⟩ := others
  refine ⟨_, spelled.comma gap blank spelled', fun ts same => ?_⟩
  obtain ⟨before, rest, rfl, front, back⟩ := List.map_eq_append_iff.1 same
  obtain ⟨t, behind, rfl, mark, back⟩ := List.map_eq_cons_iff.1 back
  obtain ⟨k, bound, d⟩ := derived before front
  obtain ⟨k', bound', d'⟩ := derived' behind back
  exact ⟨max k k', by omega, .more d (Prod.mk.inj mark).1 d'⟩

/-- A function with its arguments in parentheses. -/
theorem Phrase.call (function : Builtin) (h : PhraseAll n cs es)
    (count : es.length = function.arity) :
    Phrase .operand (n + 1) (function.name.toList ++ '(' :: (cs ++ [')']))
      (.call function.name es) := by
  obtain ⟨words, spelled, derived⟩ := h
  refine ⟨_, spelled.call function, fun ts same => ?_⟩
  obtain ⟨name, rest, rfl, mark, back⟩ := List.map_eq_cons_iff.1 same
  obtain ⟨left, rest, rfl, mark', back⟩ := List.map_eq_cons_iff.1 back
  obtain ⟨inner, behind, rfl, front, back⟩ := List.map_eq_append_iff.1 back
  obtain ⟨right, rfl, mark''⟩ := List.map_eq_singleton_iff.1 back
  obtain ⟨kind, text⟩ := Prod.mk.inj mark
  obtain ⟨k, bound, d⟩ := derived inner front
  exact ⟨k + 1, Nat.succ_le_succ bound, .call function kind text
    (Prod.mk.inj mark').1 d (Prod.mk.inj mark'').1 count⟩

end Phrase

section Parse

variable {limit : Int} {source : String} {n : Nat} {e : Expr}

/-- A phrase is parsed where the limit has room for its nesting. -/
theorem Expr.parse_of_phrase (h : Phrase .expression n source.toList e) (room : (n : Int) ≤ limit) :
    Expr.parse limit source = .ok e := by
  obtain ⟨words, spelled, derived⟩ := h
  obtain ⟨front, same, inner, scanned⟩ := spelled.exists_scan
  obtain ⟨k, bound, d⟩ := derived front same
  have parsed : ofTokens limit (front ++ [⟨.finish, "", source.length⟩]) = .ok e :=
    ofTokens_of_derives rfl inner d (.inr (by simp only; omega))
  rw [parse, scanned]
  dsimp only
  rw [parsed]
  rfl

/-- A text that is parsed is a phrase, with no nesting at all or with nesting under the limit. -/
theorem Expr.phrase_of_parse (h : Expr.parse limit source = .ok e) :
    ∃ n, Phrase .expression n source.toList e ∧ (n = 0 ∨ (n : Int) ≤ limit) := by
  unfold parse at h
  split at h
  · cases h
  · rename_i tokens scanned
    obtain ⟨front, rfl, lexemes, spelled⟩ := Spells.of_scan scanned
    have sound : Ensures _ _ (ofTokens limit (front ++ [⟨.finish, "", source.length⟩])) :=
      ensures_ofTokens rfl fun token mem => ne_finish_of_isLexeme (lexemes token mem)
    cases parsed : ofTokens limit (front ++ [⟨.finish, "", source.length⟩]) with
    | error fault =>
        rw [parsed] at h
        cases h
    | ok expr =>
        rw [parsed] at h sound
        cases h
        obtain ⟨n, derived, fits⟩ := sound
        refine ⟨n, ⟨_, spelled, fun ts same => ⟨n, Nat.le_refl n, derives_congr derived same⟩⟩, ?_⟩
        simpa [Scope.Fits] using fits

end Parse

end Reckoner
