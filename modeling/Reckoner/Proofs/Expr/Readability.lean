import Reckoner.Proofs.Decimal.Characters
import Reckoner.Proofs.Decimal.Written
import Reckoner.Proofs.RoundTrip

/-!
# Canonical texts are readable in one way

The canonical text of a parsed tree determines the tree, whether the text can itself be parsed or
not.  Numbers with an exponent and the infinity are included, although their signs and letters also
occur elsewhere in texts.

## Implementation notes

Two trees are compared by their texts together with what stands behind each of these, because the
text of an operand has to be told from the rest of the text around it.  A text starts with a word,
which is that of a number or a name, and which is empty if the text starts with a parenthesis.
What follows a word starts with a delimiter, and no word contains one, so that equal texts start
with equal words.  The induction is on the first tree; the second is taken apart in each case.
-/

namespace Reckoner

open Decimal (readNumber?)

/-- The characters between the words of a canonical text. -/
def delimiters : List Char := [' ', '(', ')', ',']

theorem IsNumberChar.not_mem_delimiters {c : Char} (h : IsNumberChar c) : c ∉ delimiters := by
  have none : ∀ d ∈ delimiters, ¬IsNumberChar d := by simp [delimiters, IsNumberChar]
  exact fun mem => none c mem h

theorem IsName.not_mem_delimiters {cs : List Char} (h : IsName cs) : ∀ c ∈ cs, c ∉ delimiters := by
  have none : ∀ d ∈ delimiters, ¬('a' ≤ d ∧ d ≤ 'z') := by simp [delimiters]
  exact fun c mem delimits => none c delimits (h.2 c mem)

theorem Operator.exists_symbol (operator : Operator) : ∃ c, operator.symbol.toList = [c] := by
  cases operator <;> exact ⟨_, rfl⟩

theorem Operator.eq_of_symbol_eq {operator other : Operator}
    (h : operator.symbol = other.symbol) : operator = other := by
  cases operator <;> cases other <;> first | rfl | simp [symbol] at h

namespace Binary64

variable {x y : Binary64}

theorem plainText_infinity : (infinite false).plainText = "inf" := rfl

/-- A literal is read from its text. -/
theorem IsLiteral.readNumber?_plainText (h : x.IsLiteral) : readNumber? x.plainText = some x := by
  rcases h with rfl | ⟨magnitude, rfl⟩
  · decide +kernel
  · have read := (writes_plainText magnitude).readNumber?_eq false
    rwa [Layout.sign, if_neg Bool.false_ne_true, List.nil_append, String.ofList_toList,
      Decimal.toBinary64_eq_finite (rank_shownDecimal magnitude)] at read

theorem IsLiteral.eq_of_plainText_eq (h : x.IsLiteral) (h' : y.IsLiteral)
    (same : x.plainText = y.plainText) : x = y := by
  have read := h.readNumber?_plainText
  rw [same, h'.readNumber?_plainText] at read
  exact (Option.some.inj read).symm

theorem IsLiteral.plainText_ne_constant (h : x.IsLiteral) (c : Constant) :
    x.plainText ≠ c.name := by
  intro same
  have none : readNumber? c.name = none := by cases c <;> decide +kernel
  rw [← same, h.readNumber?_plainText] at none
  cases none

theorem IsLiteral.plainText_ne_nil (h : x.IsLiteral) : x.plainText.toList ≠ [] := by
  rcases h with rfl | ⟨magnitude, rfl⟩
  · simp [plainText_infinity]
  · obtain ⟨c, others, same, -⟩ := (writes_plainText magnitude).starts
    simp [same]

theorem IsLiteral.plainText_ne_minus (h : x.IsLiteral) {cs : List Char} :
    x.plainText.toList ≠ '-' :: cs := by
  intro minus
  rcases h with rfl | ⟨magnitude, rfl⟩
  · simp [plainText_infinity] at minus
  · obtain ⟨c, others, same, digit | point⟩ := (writes_plainText magnitude).starts
    · cases minus.symm.trans same
      exact absurd digit (by decide)
    · cases minus.symm.trans same
      cases point

end Binary64

namespace Expr

variable {d e operand left right : Expr} {operator : Operator} {rest rest' : List Char}

section Words

/-- The word that the text of an expression starts with. -/
def lead : Expr → List Char
  | .number value => value.plainText.toList
  | .constant name _ => name.toList
  | .negate _ | .binary .. => []
  | .call name _ => name.toList

/-- What the text of an expression has behind the word that it starts with. -/
def behind : Expr → List Char
  | .number _ | .constant .. => []
  | .negate operand => '(' :: ('-' :: operand.text.toList ++ [')'])
  | .binary operator left right => '(' :: (left.text.toList ++
      ([' '] ++ (operator.symbol.toList ++ ([' '] ++ right.text.toList))) ++ [')'])
  | .call _ arguments => '(' :: (writeArguments arguments ++ [')'])

theorem toList_text_eq_append (e : Expr) : e.text.toList = e.lead ++ e.behind := by
  cases e <;> simp [lead, behind]

theorem Made.not_delimiter (h : e.Made Binary64.IsLiteral) : ∀ c ∈ e.lead, c ∉ delimiters := by
  cases h with
  | number => exact fun c mem => (Binary64.isNumberChar_plainText _ c mem).not_mem_delimiters
  | constant c => exact c.isName_name.not_mem_delimiters
  | negate | binary => exact nofun
  | call function => exact function.isName_name.not_mem_delimiters

/-- What can stand behind an operand, inside a text or behind it. -/
inductive Closes : List Char → Prop
  | nil : Closes []
  | blank {cs} : Closes (' ' :: cs)
  | parenthesis {cs} : Closes (')' :: cs)
  | comma {cs} : Closes (',' :: cs)

theorem Closes.ne_open (h : Closes rest) {cs : List Char} : rest ≠ '(' :: cs := by
  rintro rfl
  cases h

/-- What follows the word in front of a text starts with a delimiter. -/
theorem delimiter_of_behind (closes : Closes rest) {c : Char} {cs : List Char}
    (found : e.behind ++ rest = c :: cs) : c ∈ delimiters := by
  cases e with
  | number | constant =>
      rw [behind, List.nil_append] at found
      subst found
      cases closes <;> simp [delimiters]
  | negate | binary | call =>
      cases found
      simp [delimiters]

/-- The word in front of a text ends at the first delimiter. -/
theorem Made.span_text (h : e.Made Binary64.IsLiteral) (closes : Closes rest) :
    (e.lead ++ (e.behind ++ rest)).takeWhile (· ∉ delimiters) = e.lead ∧
      (e.lead ++ (e.behind ++ rest)).dropWhile (· ∉ delimiters) = e.behind ++ rest := by
  apply Token.span_append
  · exact fun c mem => decide_eq_true (h.not_delimiter c mem)
  · exact fun c cs found => decide_eq_false (not_not_intro (delimiter_of_behind closes found))

/-- Equal texts start with equal words. -/
theorem Made.lead_eq (hd : d.Made Binary64.IsLiteral) (he : e.Made Binary64.IsLiteral)
    (closes : Closes rest) (closes' : Closes rest')
    (same : d.text.toList ++ rest = e.text.toList ++ rest') :
    d.lead = e.lead ∧ d.behind ++ rest = e.behind ++ rest' := by
  rw [toList_text_eq_append, toList_text_eq_append, List.append_assoc, List.append_assoc] at same
  obtain ⟨taken, dropped⟩ := hd.span_text closes
  obtain ⟨taken', dropped'⟩ := he.span_text closes'
  exact ⟨taken.symm.trans (same ▸ taken'), dropped.symm.trans (same ▸ dropped')⟩

/-- No text starts with a minus sign. -/
theorem Made.text_ne_minus (h : e.Made Binary64.IsLiteral) {cs : List Char} :
    e.text.toList ++ rest ≠ '-' :: cs := by
  intro minus
  cases h with
  | @number value literal =>
      obtain ⟨c, others, found⟩ := List.exists_cons_of_ne_nil literal.plainText_ne_nil
      rw [toList_text_number, found] at minus
      cases minus
      exact literal.plainText_ne_minus found
  | constant c => cases c <;> simp [Constant.name] at minus
  | negate | binary => simp at minus
  | call function => cases function <;> simp [Builtin.name] at minus

/-- A text without a word in front is that of an operation. -/
theorem Made.operation_of_lead_eq_nil (h : e.Made Binary64.IsLiteral) (none : e.lead = []) :
    (∃ operand, operand.Made Binary64.IsLiteral ∧ e = .negate operand) ∨
      ∃ operator left right, left.Made Binary64.IsLiteral ∧ right.Made Binary64.IsLiteral ∧
        e = .binary operator left right := by
  cases h with
  | number literal => exact absurd none literal.plainText_ne_nil
  | constant c => exact absurd none c.isName_name.1
  | call function => exact absurd none function.isName_name.1
  | negate made => exact .inl ⟨_, made, rfl⟩
  | binary left right => exact .inr ⟨_, _, _, left, right, rfl⟩

end Words

section Readable

/-- The text of the tree, wherever it stands, is that of no other tree. -/
def Readable (d : Expr) : Prop :=
  ∀ e rest rest', e.Made Binary64.IsLiteral → Closes rest → Closes rest' →
    d.text.toList ++ rest = e.text.toList ++ rest' → d = e ∧ rest = rest'

theorem readable_number {value : Binary64} (literal : value.IsLiteral) :
    Readable (.number value) := by
  intro e rest rest' made closes closes' same
  obtain ⟨word, tail⟩ := (Made.number literal).lead_eq made closes closes' same
  cases made with
  | number literal' =>
      have written := String.toList_inj.1 word
      exact ⟨congrArg number (literal.eq_of_plainText_eq literal' written), tail⟩
  | constant c => exact absurd (String.toList_inj.1 word) (literal.plainText_ne_constant c)
  | negate | binary => exact absurd word literal.plainText_ne_nil
  | call => exact absurd tail closes.ne_open

theorem readable_constant (c : Constant) : Readable (.constant c.name c.value) := by
  intro e rest rest' made closes closes' same
  obtain ⟨word, tail⟩ := (Made.constant c).lead_eq made closes closes' same
  cases made with
  | number literal =>
      exact absurd (String.toList_inj.1 word.symm) (literal.plainText_ne_constant c)
  | constant c' =>
      cases Constant.eq_of_name_eq (String.toList_inj.1 word)
      exact ⟨rfl, tail⟩
  | negate | binary => exact absurd word c.isName_name.1
  | call => exact absurd tail closes.ne_open

theorem readable_negate (made : operand.Made Binary64.IsLiteral) (readable : operand.Readable) :
    Readable (.negate operand) := by
  intro e rest rest' made' closes closes' same
  obtain ⟨word, tail⟩ := made.negate.lead_eq made' closes closes' same
  rcases made'.operation_of_lead_eq_nil word.symm with
    ⟨operand', inner, rfl⟩ | ⟨operator, left, right, inner, -, rfl⟩
  · simp only [behind, List.cons_append, List.append_assoc, List.cons.injEq, true_and] at tail
    obtain ⟨rfl, following⟩ := readable _ _ _ inner .parenthesis .parenthesis tail
    exact ⟨rfl, (List.cons.inj following).2⟩
  · simp only [behind, List.cons_append, List.append_assoc, List.cons.injEq, true_and] at tail
    exact absurd tail.symm inner.text_ne_minus

theorem readable_binary (hl : left.Made Binary64.IsLiteral) (hr : right.Made Binary64.IsLiteral)
    (readableLeft : left.Readable) (readableRight : right.Readable) :
    Readable (.binary operator left right) := by
  intro e rest rest' made closes closes' same
  obtain ⟨word, tail⟩ := (hl.binary hr).lead_eq made closes closes' same
  rcases made.operation_of_lead_eq_nil word.symm with
    ⟨operand, -, rfl⟩ | ⟨operator', left', right', hl', hr', rfl⟩
  · simp only [behind, List.cons_append, List.append_assoc, List.cons.injEq, true_and] at tail
    exact absurd tail hl.text_ne_minus
  · obtain ⟨c, symbol⟩ := operator.exists_symbol
    obtain ⟨c', symbol'⟩ := operator'.exists_symbol
    simp only [behind, List.cons_append, List.append_assoc, List.cons.injEq, true_and, symbol,
      symbol', List.nil_append] at tail
    obtain ⟨rfl, following⟩ := readableLeft _ _ _ hl' .blank .blank tail
    simp only [List.cons.injEq, true_and] at following
    obtain ⟨sameSymbol, following⟩ := following
    obtain ⟨rfl, last⟩ :=
      readableRight _ _ _ hr' .parenthesis .parenthesis following
    rw [sameSymbol, ← symbol'] at symbol
    cases Operator.eq_of_symbol_eq (String.toList_inj.1 symbol)
    exact ⟨rfl, (List.cons.inj last).2⟩

/-- Lists of arguments are told apart like single ones. -/
theorem eq_of_writeArguments_eq {ds es : List Expr} (readable : ∀ d ∈ ds, d.Readable)
    (made : ∀ e ∈ es, e.Made Binary64.IsLiteral) (nonempty : ds ≠ []) (nonempty' : es ≠ [])
    (same : writeArguments ds ++ ')' :: rest = writeArguments es ++ ')' :: rest') :
    ds = es ∧ rest = rest' := by
  induction ds generalizing es with
  | nil => exact absurd rfl nonempty
  | cons d ds ih =>
      obtain ⟨e, es, rfl⟩ := List.exists_cons_of_ne_nil nonempty'
      obtain ⟨first, later⟩ := List.forall_mem_cons.1 readable
      obtain ⟨firstMade, laterMade⟩ := List.forall_mem_cons.1 made
      rcases eq_or_ne ds [] with rfl | further <;> rcases eq_or_ne es [] with rfl | further'
      · rw [writeArguments_singleton, writeArguments_singleton] at same
        obtain ⟨rfl, tail⟩ := first _ _ _ firstMade .parenthesis .parenthesis same
        exact ⟨rfl, (List.cons.inj tail).2⟩
      · rw [writeArguments_singleton, writeArguments_cons further', List.append_assoc] at same
        obtain ⟨-, tail⟩ := first _ _ _ firstMade .parenthesis .comma same
        cases tail
      · rw [writeArguments_singleton, writeArguments_cons further, List.append_assoc] at same
        obtain ⟨-, tail⟩ := first _ _ _ firstMade .comma .parenthesis same
        cases tail
      · rw [writeArguments_cons further, writeArguments_cons further', List.append_assoc,
          List.append_assoc] at same
        obtain ⟨rfl, tail⟩ := first _ _ _ firstMade .comma .comma same
        obtain ⟨rfl, behind⟩ := ih later laterMade further further' (by simpa using tail)
        exact ⟨rfl, behind⟩

theorem readable_call (function : Builtin) {arguments : List Expr}
    (count : arguments.length = function.arity)
    (made : ∀ argument ∈ arguments, argument.Made Binary64.IsLiteral)
    (readable : ∀ argument ∈ arguments, argument.Readable) :
    Readable (.call function.name arguments) := by
  intro e rest rest' made' closes closes' same
  obtain ⟨word, tail⟩ := (Made.call function count made).lead_eq made' closes closes' same
  cases made' with
  | number | constant => exact absurd tail.symm closes'.ne_open
  | negate | binary => exact absurd word function.isName_name.1
  | call function' count' made' =>
      simp only [behind, List.cons_append, List.append_assoc, List.cons.injEq, true_and] at tail
      obtain ⟨rfl, following⟩ := eq_of_writeArguments_eq readable made'
        (function.ne_nil_of_length_eq count) (function'.ne_nil_of_length_eq count') tail
      rw [String.toList_inj.1 word]
      exact ⟨rfl, following⟩

/-- Every tree that is made of literals is told from the others by its text. -/
theorem Made.readable (h : d.Made Binary64.IsLiteral) : d.Readable := by
  induction h with
  | number literal => exact readable_number literal
  | constant c => exact readable_constant c
  | negate made ih => exact readable_negate made ih
  | binary left right ihl ihr => exact readable_binary left right ihl ihr
  | call function count made ih => exact readable_call function count made ih

end Readable

/-- Trees with the same canonical text are the same, if both are parsed, from any texts and under
any limits. -/
theorem eq_of_text_eq (limit limit' : Int) (source source' : String) (d e : Expr)
    (parsed : parse limit source = .ok d) (parsed' : parse limit' source' = .ok e)
    (same : d.text = e.text) : d = e := by
  obtain ⟨n, phrase, -⟩ := phrase_of_parse parsed
  obtain ⟨n', phrase', -⟩ := phrase_of_parse parsed'
  exact ((made_of_phrase phrase).readable e [] [] (made_of_phrase phrase') .nil .nil
    (by rw [same])).1

/-- The numerals `2.50` and `2.5` are parsed as literals with the same text, so that these are the
same. -/
theorem eq_of_text_eq_numerals :
    parse 0 "2.50" = .ok (.number (Decimal.toBinary64 false ⟨250, -2⟩)) ∧
      parse 1 "(2.5)" = .ok (.number (Decimal.toBinary64 false ⟨25, -1⟩)) ∧
      (number (Decimal.toBinary64 false ⟨250, -2⟩)).text =
        (number (Decimal.toBinary64 false ⟨25, -1⟩)).text ∧
      number (Decimal.toBinary64 false ⟨250, -2⟩) = number (Decimal.toBinary64 false ⟨25, -1⟩) := by
  have digits : ∀ c ∈ ['2'] ++ ['5', '0'], '0' ≤ c ∧ c ≤ '9' :=
    fun c mem => Token.isNumeralDigit_iff.1 (List.all_eq_true.1 rfl c mem)
  have digits' : ∀ c ∈ ['2'] ++ ['5'], '0' ≤ c ∧ c ≤ '9' :=
    fun c mem => Token.isNumeralDigit_iff.1 (List.all_eq_true.1 rfl c mem)
  have numeral : IsNumeral ['2', '.', '5', '0'] := .inr ⟨['2'], ['5', '0'], rfl, by decide, digits⟩
  have numeral' : IsNumeral ['2', '.', '5'] := .inr ⟨['2'], ['5'], rfl, by decide, digits'⟩
  have parsed : parse 0 "2.50" = .ok (.number (Decimal.toBinary64 false ⟨250, -2⟩)) :=
    parse_of_phrase (Phrase.number numeral (by decide +kernel)).of_operand (by decide)
  have parsed' : parse 1 "(2.5)" = .ok (.number (Decimal.toBinary64 false ⟨25, -1⟩)) :=
    parse_of_phrase (Phrase.number numeral' (by decide +kernel)).of_operand.group.of_operand
      (by decide)
  have same : (number (Decimal.toBinary64 false ⟨250, -2⟩)).text =
      (number (Decimal.toBinary64 false ⟨25, -1⟩)).text := by decide +kernel
  exact ⟨parsed, parsed', same, eq_of_text_eq 0 1 _ _ _ _ parsed parsed' same⟩

end Expr

end Reckoner
