import Reckoner.Expr.Size
import Reckoner.Proofs.Decimal.PlainText
import Reckoner.Proofs.Expr.Rendering
import Reckoner.Proofs.Expr.WellFormed
import Reckoner.Proofs.Parsing.Misnomer

/-!
# The canonical text of a tree is parsed as the tree

The canonical text of a parsed tree is parsed as the same tree, under any limit of at least twice
its height, exactly when its numbers are written without an exponent.  Otherwise a letter touches a
numeral, or the name of the infinity is unknown.

## Implementation notes

The text of every tree that is made of literals belongs to one of three kinds: a phrase for the
tree, a text that leads to an unknown name, or a text that breaks at a letter.  The induction is on
the tree, and the first part of a text that is no phrase decides about the kind of the whole.
-/

namespace Reckoner

open Reckoner.Expr (Node)
open Text (isLayout)

/-- A single space is layout. -/
theorem isLayout_space : ∀ c ∈ [' '], isLayout c = true := List.forall_mem_singleton.2 rfl

/-- A number that a numeral can denote. -/
def Binary64.IsLiteral (x : Binary64) : Prop :=
  x = .infinite false ∨ ∃ magnitude, x = .finite false magnitude

theorem Decimal.isLiteral_toBinary64 {decimal : Decimal} :
    (decimal.toBinary64 false).IsLiteral := by
  unfold toBinary64
  split
  · exact .inr ⟨_, rfl⟩
  · split
    · exact .inl rfl
    · unfold Binary64.ofRatio Binary64.ofUnits Binary64.ofRank
      split
      · exact .inr ⟨_, rfl⟩
      · exact .inl rfl

/-- A number that is written as a numeral. -/
def Binary64.IsPlain (x : Binary64) : Prop := x.IsLiteral ∧ x.IsPositional

namespace Expr

variable {literal literal' : Binary64 → Prop} {x : Binary64} {rule : Rule} {n : Nat}
  {cs : List Char} {e : Expr} {arguments : List Expr}

section Made

/-- The numbers among the nodes are those that the tree is made of. -/
theorem Made.literal_of_mem (h : e.Made literal) (mem : Node.number x ∈ e.postfixNodes) :
    literal x := by
  induction h with
  | number suits => exact number_mem_number.1 mem ▸ suits
  | constant c => simp [postfixNodes, listOnto] at mem
  | negate _ ih => exact ih (number_mem_negate.1 mem)
  | binary _ _ left right => exact (number_mem_binary.1 mem).elim left right
  | call function _ _ ih =>
      obtain ⟨argument, member, inner⟩ := number_mem_call.1 mem
      exact ih argument member inner

theorem Made.of_numbers (h : e.Made literal)
    (numbers : ∀ x, Node.number x ∈ e.postfixNodes → literal' x) : e.Made literal' := by
  induction h with
  | number => exact .number (numbers _ (number_mem_number.2 rfl))
  | constant c => exact .constant c
  | negate _ ih => exact .negate (ih fun x mem => numbers x (number_mem_negate.2 mem))
  | binary _ _ left right =>
      exact .binary (left fun x mem => numbers x (number_mem_binary.2 (.inl mem)))
        (right fun x mem => numbers x (number_mem_binary.2 (.inr mem)))
  | call function count _ ih =>
      exact .call function count fun argument member =>
        ih argument member fun x mem => numbers x (number_mem_call.2 ⟨argument, member, mem⟩)

/-- The tree of a phrase is made of numbers that numerals denote. -/
theorem made_of_phrase (h : Phrase rule n cs e) : e.Made Binary64.IsLiteral := by
  obtain ⟨words, spelled, derived⟩ := h
  obtain ⟨k, -, d⟩ := derived (words.map fun word => ⟨word.1, word.2, 0⟩) (by
    rw [List.map_map]
    exact List.map_id words)
  apply made_of_derives d
  intro t mem kind
  obtain ⟨word, member, rfl⟩ := List.mem_map.1 mem
  have lexeme := spelled.isLexeme word member
  rw [show word.1 = .number from kind] at lexeme
  cases lexeme with
  | number numeral =>
      obtain ⟨decimal, -, read⟩ := Decimal.readNumber?_of_isNumeral numeral
      rw [String.ofList_toList] at read
      exact ⟨_, read, Decimal.isLiteral_toBinary64⟩

end Made

section Height

theorem height_lt_heightOfAll {argument : Expr} (mem : argument ∈ arguments) :
    argument.height < heightOfAll arguments := by
  induction arguments with
  | nil => cases mem
  | cons first others ih =>
      rw [heightOfAll]
      rcases List.mem_cons.1 mem with rfl | later
      · omega
      · have := ih later
        omega

theorem room_of_mem {argument : Expr} (mem : argument ∈ arguments) :
    2 * argument.height ≤ 2 * heightOfAll arguments - 2 := by
  have := height_lt_heightOfAll mem
  omega

theorem room_of_ne_nil (nonempty : arguments ≠ []) :
    2 * heightOfAll arguments - 2 + 1 ≤ 2 * heightOfAll arguments := by
  obtain ⟨first, others, rfl⟩ := List.exists_cons_of_ne_nil nonempty
  have := height_lt_heightOfAll (List.mem_cons_self : first ∈ first :: others)
  omega

end Height

section Phrase

theorem phraseAll_writeArguments (nonempty : arguments ≠ []) (h : ∀ argument ∈ arguments,
      Phrase .operand (2 * argument.height) argument.text.toList argument) :
    PhraseAll (2 * heightOfAll arguments - 2) (writeArguments arguments) arguments := by
  have bounded : ∀ argument ∈ arguments,
      Phrase .expression (2 * heightOfAll arguments - 2) argument.text.toList argument :=
    fun argument mem => (h argument mem).of_operand.mono (room_of_mem mem)
  generalize 2 * heightOfAll arguments - 2 = n at bounded
  clear h
  induction arguments with
  | nil => exact absurd rfl nonempty
  | cons first others ih =>
      obtain ⟨phrase, phrases⟩ := List.forall_mem_cons.1 bounded
      rcases eq_or_ne others [] with rfl | further
      · rw [writeArguments_singleton]
        exact .one phrase
      · rw [writeArguments_cons further]
        simpa using PhraseAll.more phrase [' '] isLayout_space (ih further phrases)

/-- The canonical text of a tree of plain numbers is a phrase, in which each level of the tree nests
at most twice. -/
theorem Made.phrase_text (h : e.Made Binary64.IsPlain) :
    Phrase .operand (2 * e.height) e.text.toList e := by
  induction h with
  | @number value plain =>
      obtain ⟨rfl | ⟨magnitude, rfl⟩, positional⟩ := plain
      · exact absurd positional Binary64.not_isPositional_infinite
      · obtain ⟨numeral, read⟩ := Binary64.readNumber?_plainText positional
        rw [toList_text_number]
        exact .number numeral (by rw [String.ofList_toList, read])
  | constant c =>
      rw [toList_text_constant]
      exact .constant c
  | negate _ ih =>
      rw [toList_text_negate, height]
      exact ih.negate.group
  | binary _ _ left right =>
      rw [toList_text_binary, height]
      refine (left.binary _ [' '] isLayout_space [' '] isLayout_space right).group.mono ?_
      omega
  | @call function arguments count _ ih =>
      rw [toList_text_call, height]
      have nonempty := function.ne_nil_of_length_eq count
      exact (Phrase.call function (phraseAll_writeArguments nonempty ih) count).mono
        (room_of_ne_nil nonempty)

end Phrase

section Kinds

/-- The three kinds of texts: that of a tree of plain numbers, one that leads to an unknown name,
and one that breaks. -/
def OneOf (rule : Rule) (n : Nat) (e : Expr) : Prop :=
  e.Made Binary64.IsPlain ∨ Misnomer rule n e.text.toList ∨ Breaks e.text.toList

theorem spells_or_breaks (h : OneOf rule n e) :
    (∃ words, Spells e.text.toList words) ∨ Breaks e.text.toList := by
  rcases h with plain | ⟨words, spelled, -⟩ | broken
  · obtain ⟨words, spelled, -⟩ := plain.phrase_text
    exact .inl ⟨words, spelled⟩
  · exact .inl ⟨words, spelled⟩
  · exact .inr broken

theorem oneOf_number {value : Binary64} (suits : value.IsLiteral) :
    OneOf .operand 0 (.number value) := by
  rw [OneOf, toList_text_number]
  by_cases positional : value.IsPositional
  · exact .inl (.number ⟨suits, positional⟩)
  · rcases suits with rfl | ⟨magnitude, rfl⟩
    · exact .inr (.inl (.name (Token.isName_of_all (by decide) rfl) rfl rfl))
    · obtain ⟨numeral, rest, text, isNumeral⟩ := Binary64.plainText_eq_exponent positional
      rw [text]
      exact .inr (.inr (.numeral isNumeral (by decide) (by decide) (by decide)))

theorem oneOf_negate {operand : Expr} (h : OneOf .operand n operand) :
    OneOf .operand (n + 2) (.negate operand) := by
  rw [OneOf, toList_text_negate]
  rcases h with plain | misnomer | broken
  · exact .inl (.negate plain)
  · exact .inr (.inl misnomer.negate.group)
  · exact .inr (.inr (.symbol .leftParen rfl (.append (.symbol .minus rfl broken) _)))

theorem oneOf_binary {operator : Operator} {left right : Expr}
    (hl : OneOf .operand (2 * left.height) left) (hr : OneOf .operand (2 * right.height) right) :
    OneOf .operand (2 * (max left.height right.height + 1)) (.binary operator left right) := by
  have blank := isLayout_space
  rw [OneOf, toList_text_binary]
  rcases hl with plain | misnomer | broken
  · have phrase := plain.phrase_text
    rcases hr with plain' | misnomer' | broken'
    · exact .inl (.binary plain plain')
    · have misnomer := Misnomer.binary_right operator phrase [' '] blank [' '] blank misnomer'
      exact .inr (.inl (misnomer.group.mono (by omega)))
    · obtain ⟨words, spelled, -⟩ := phrase
      exact .inr (.inr (Breaks.binary operator spelled [' '] blank [' '] blank broken').group)
  · rcases spells_or_breaks hr with ⟨words, spelled⟩ | broken'
    · have misnomer := Misnomer.binary_left operator misnomer [' '] blank [' '] blank spelled
      exact .inr (.inl (misnomer.group.mono (by omega)))
    · obtain ⟨words, spelled, -⟩ := misnomer
      exact .inr (.inr (Breaks.binary operator spelled [' '] blank [' '] blank broken').group)
  · exact .inr (.inr (broken.append _).group)

/-- The three kinds of texts of several trees, separated by commas. -/
def OneOfAll (n : Nat) (exprs : List Expr) : Prop :=
  (∀ e ∈ exprs, e.Made Binary64.IsPlain) ∨ MisnomerAll n (writeArguments exprs) ∨
    Breaks (writeArguments exprs)

theorem spells_or_breaks_arguments (nonempty : arguments ≠ []) (h : OneOfAll n arguments) :
    (∃ words, Spells (writeArguments arguments) words) ∨ Breaks (writeArguments arguments) := by
  rcases h with plain | ⟨words, spelled, -⟩ | broken
  · obtain ⟨words, spelled, -⟩ :=
      phraseAll_writeArguments nonempty fun argument mem => (plain argument mem).phrase_text
    exact .inl ⟨words, spelled⟩
  · exact .inl ⟨words, spelled⟩
  · exact .inr broken

/-- The first argument that is no phrase decides about the kind of the whole list. -/
theorem oneOfAll_of_forall (nonempty : arguments ≠ [])
    (h : ∀ argument ∈ arguments, OneOf .operand (2 * argument.height) argument)
    (room : ∀ argument ∈ arguments, 2 * argument.height ≤ n) : OneOfAll n arguments := by
  induction arguments with
  | nil => exact absurd rfl nonempty
  | cons first others ih =>
      obtain ⟨kind, kinds⟩ := List.forall_mem_cons.1 h
      obtain ⟨bound, bounds⟩ := List.forall_mem_cons.1 room
      rcases eq_or_ne others [] with rfl | further
      · rw [OneOfAll, writeArguments_singleton]
        exact kind.imp List.forall_mem_singleton.2
          (.imp (fun misnomer => .one (misnomer.of_operand.mono bound)) id)
      · have later := ih further kinds bounds
        have blank := isLayout_space
        rw [OneOfAll, writeArguments_cons further]
        rcases kind with plain | misnomer | broken
        · have phrase := plain.phrase_text.of_operand.mono bound
          rcases later with plains | misnomer | broken
          · exact .inl (List.forall_mem_cons.2 ⟨plain, plains⟩)
          · have misnomers := MisnomerAll.more phrase [' '] blank misnomer
            rw [Nat.max_self] at misnomers
            exact .inr (.inl misnomers)
          · obtain ⟨words, spelled, -⟩ := phrase
            exact .inr (.inr (.comma spelled [' '] blank broken))
        · rcases spells_or_breaks_arguments further later with ⟨words, spelled⟩ | broken
          · exact .inr (.inl (.first (misnomer.of_operand.mono bound) [' '] blank spelled))
          · obtain ⟨words, spelled, -⟩ := misnomer
            exact .inr (.inr (.comma spelled [' '] blank broken))
        · exact .inr (.inr (broken.append _))

theorem oneOf_call {function : Builtin} (count : arguments.length = function.arity)
    (h : ∀ argument ∈ arguments, OneOf .operand (2 * argument.height) argument) :
    OneOf .operand (2 * heightOfAll arguments) (.call function.name arguments) := by
  have nonempty := function.ne_nil_of_length_eq count
  rw [OneOf, toList_text_call]
  rcases oneOfAll_of_forall nonempty h fun argument => room_of_mem with
    plain | misnomer | broken
  · exact .inl (.call function count plain)
  · exact .inr (.inl ((Misnomer.call function misnomer).mono (room_of_ne_nil nonempty)))
  · exact .inr (.inr (.call function broken))

/-- The canonical text of every tree of literals is of one of the three kinds. -/
theorem Made.oneOf (h : e.Made Binary64.IsLiteral) : OneOf .operand (2 * e.height) e := by
  induction h with
  | number suits => exact oneOf_number suits
  | constant c => exact .inl (.constant c)
  | negate _ ih => exact oneOf_negate ih
  | binary _ _ left right => exact oneOf_binary left right
  | call function count _ ih => exact oneOf_call count ih

end Kinds

section Parse

variable {limit : Int} {source : String}

/-- A text that breaks is not scanned. -/
theorem parse_of_breaks (h : Breaks source.toList) :
    ∃ cause, parse limit source = .error (.failure cause) ∧ cause.kind = .unexpectedCharacter := by
  obtain ⟨cause, stopped, kind⟩ := h.scanFrom_eq 0 []
  have scanned : Token.scan source = .error cause := stopped
  exact ⟨.lexical cause, by rw [parse, scanned], kind⟩

end Parse

end Expr

/-- Let a text be parsed as a tree under some limit.  Under any limit of at least twice the height,
the canonical text of the tree is parsed as the same tree when every number in it is zero or lies
from `10 ^ (-4)` up to `10 ^ 16`; when one does not, it fails for a character or a name. -/
theorem parse_text (limit : Int) (source : String) (e : Expr)
    (parsed : Expr.parse limit source = .ok e) (greater : Int)
    (room : 2 * (e.height : Int) ≤ greater) :
    ((∀ x, Node.number x ∈ e.postfixNodes → x.IsPositional) →
      Expr.parse greater e.text = .ok e) ∧
    ((∃ x, Node.number x ∈ e.postfixNodes ∧ ¬x.IsPositional) →
      ∃ cause, Expr.parse greater e.text = .error (.failure cause) ∧
        (cause.kind = .unexpectedCharacter ∨ cause.kind = .unknownFunction)) := by
  obtain ⟨n, phrase, -⟩ := Expr.phrase_of_parse parsed
  have made := Expr.made_of_phrase phrase
  constructor
  · intro positional
    have plain : e.Made Binary64.IsPlain :=
      made.of_numbers fun x mem => ⟨made.literal_of_mem mem, positional x mem⟩
    exact Expr.parse_of_phrase plain.phrase_text.of_operand (by omega)
  · rintro ⟨x, mem, outside⟩
    rcases made.oneOf with plain | misnomer | broken
    · exact absurd (plain.literal_of_mem mem).2 outside
    · obtain ⟨cause, failed, kind⟩ := Expr.parse_of_misnomer greater misnomer.of_operand (by omega)
      exact ⟨cause, failed, .inr kind⟩
    · obtain ⟨cause, failed, kind⟩ := Expr.parse_of_breaks broken
      exact ⟨cause, failed, .inl kind⟩

/-- The tree of `-2.5` has height one, and its canonical text is parsed as the tree under the limit
two. -/
theorem parse_text_negated_literal :
    Expr.parse 1 "-2.5" = .ok (.negate (.number (Decimal.toBinary64 false ⟨25, -1⟩))) ∧
      2 * ((Expr.negate (.number (Decimal.toBinary64 false ⟨25, -1⟩))).height : Int) ≤ 2 ∧
      Expr.parse 2 "(-2.5)" = .ok (.negate (.number (Decimal.toBinary64 false ⟨25, -1⟩))) := by
  have digits : ∀ c ∈ ['2'] ++ ['5'], '0' ≤ c ∧ c ≤ '9' :=
    fun c mem => Token.isNumeralDigit_iff.1 (List.all_eq_true.1 rfl c mem)
  have numeral : IsNumeral ['2', '.', '5'] := .inr ⟨['2'], ['5'], rfl, by decide, digits⟩
  have read : Decimal.readNumber? (String.ofList ['2', '.', '5']) =
      some (Decimal.toBinary64 false ⟨25, -1⟩) := by decide +kernel
  have parsed : Expr.parse 1 "-2.5" = .ok (.negate (.number (Decimal.toBinary64 false ⟨25, -1⟩))) :=
    Expr.parse_of_phrase (Phrase.number numeral read).negate (by decide)
  have height :
      2 * ((Expr.negate (.number (Decimal.toBinary64 false ⟨25, -1⟩))).height : Int) ≤ 2 := by
    decide
  have text : (Expr.negate (.number (Decimal.toBinary64 false ⟨25, -1⟩))).text = "(-2.5)" := by
    decide +kernel
  have positional : (Decimal.toBinary64 false ⟨25, -1⟩).IsPositional := .inr (by decide +kernel)
  refine ⟨parsed, height, text ▸ (parse_text 1 "-2.5" _ parsed 2 height).1 ?_⟩
  intro x mem
  rw [Expr.number_mem_negate, Expr.number_mem_number] at mem
  exact mem ▸ positional

end Reckoner
