import Reckoner.Marker
import Reckoner.Proofs.Calculation
import Reckoner.Proofs.Parsing.Blame
import Reckoner.Proofs.Token.Stop

/-!
# Where failures stand

The position of a failure is that of what the failure is about: a character that no lexeme can
contain, a token, or the end of the text.  An empty expression and failures of arithmetic have no
position.  No position lies outside the text, so that a marker stands where the failure does.

## Implementation notes

The rules of the grammar name the tokens that they blame, and scanning tells where these stand; the
two are joined in `Placed`, which says of each kind of failure where its position comes from.
-/

namespace Reckoner

open Text (isLayout)
open Token Parsing

namespace Kind

/-- The kinds of failure without a position. -/
def unplaced : List Kind := [.emptyExpression, .domainError, .divisionByZero]

/-- The kinds of failure that can stand at the end of the text. -/
def atEnd : List Kind := [.incompleteExpression, .unmatchedParenthesis, .tooDeeplyNested]

variable {k : Kind}

theorem not_mem_of_lexical (h : k ∈ lexical) : k ∉ unplaced ∧ k ∉ syntactic := by
  revert k
  decide

theorem not_mem_of_syntactic (h : k ∈ syntactic) :
    k ∉ lexical ∧ (k ∈ unplaced ↔ k = .emptyExpression) := by
  revert k
  decide

theorem not_mem_of_arithmetical (h : k ∈ arithmetical) :
    k ∈ unplaced ∧ k ∉ lexical ∧ k ∉ syntactic := by
  revert k
  decide

theorem syntactic_of_name (h : k = .unknownFunction ∨ k = .arityMismatch) : k ∈ syntactic := by
  rcases h with rfl | rfl <;> decide

end Kind

/-- A mark stands where it is asked for exactly in the text and directly behind it. -/
theorem Marker.clamp_eq_iff {source : List Char} {column : Int} :
    (clamp source column : Int) = column ↔ 0 ≤ column ∧ column ≤ source.length := by
  unfold clamp
  omega

section Character

variable {source : String} {position : Nat} {word after : List Char} {c : Char}
  {cause : LexicalError}

/-- The character that stops scanning is no layout. -/
theorem Token.Halts.visible (h : Halts position word c after cause) : isLayout c = false := by
  cases h with
  | character visible => exact visible
  | lonePoint | secondPoint => rfl
  | afterNumeral _ _ _ letter =>
      refine Bool.eq_false_iff.2 fun layout => ?_
      have apart : touches .number c = false := not_touches_of_isLayout layout
      simp [touches, letter] at apart
  | afterName _ _ glued =>
      refine Bool.eq_false_iff.2 fun layout => ?_
      have apart : touches .name c = false := not_touches_of_isLayout layout
      rw [touches, Bool.or_assoc, glued, Bool.or_true] at apart
      cases apart

/-- Scanning stops at a character of the text that is no layout. -/
theorem Token.exists_visible_of_scan (stopped : scan source = .error cause) :
    ∃ c, source.toList[cause.position]? = some c ∧ isLayout c = false := by
  obtain ⟨cs, _, _, word, c, after, text, -, -, halts⟩ :=
    exists_halts_of_scanFrom stopped .start rfl nofun
  refine ⟨c, ?_, halts.visible⟩
  have text : source.toList = (cs ++ word) ++ c :: after := by simpa using text
  rw [halts.position_eq, ← List.length_append, text, List.getElem?_append_right (Nat.le_refl _),
    Nat.sub_self, List.getElem?_cons_zero]

end Character

section Tokens

variable {source : String} {tokens : List Token} {limit finish : Int} {cause : SyntaxError}

/-- A scanned token starts in the text, or it is the token of the end. -/
theorem Token.position_of_scan (scanned : scan source = .ok tokens) :
    ∀ t ∈ tokens, (0 ≤ t.position ∧ t.position ≤ source.length) ∧
      (t.position = source.length → t.kind = .finish) := by
  have nonnegative : ∀ t ∈ tokens, 0 ≤ t.position := by
    obtain ⟨spelling, lexical, -, -, rfl⟩ := spelled_of_scanFrom scanned
    intro t mem
    simpa using (Spelling.pairwise_tokensFrom lexical).2 t mem
  have increasing := pairwise_of_scan scanned
  obtain ⟨front, rfl, -⟩ := eq_append_of_scan scanned
  obtain ⟨-, -, before⟩ := List.pairwise_append.1 increasing
  intro t mem
  rcases List.mem_append.1 mem with inner | last
  · have below : t.position < source.length := before t inner _ List.mem_cons_self
    exact ⟨⟨nonnegative t mem, Int.le_of_lt below⟩, fun ends => absurd ends (Int.ne_of_lt below)⟩
  · cases List.mem_singleton.1 last
    exact ⟨⟨nonnegative _ mem, Int.le_refl _⟩, fun _ => rfl⟩

theorem SyntaxError.position?_eq_none_iff :
    cause.position? = none ↔ cause.kind = .emptyExpression := by
  cases cause <;> simp [position?, kind]

/-- An error about tokens stands at one of them, or it is of one of the kinds that can stand at the
end. -/
theorem Parsing.Rejects.position?_eq (h : Rejects limit finish tokens cause)
    (nonempty : cause.kind ≠ .emptyExpression) :
    (cause.position? = some finish ∧ cause.kind ∈ Kind.atEnd) ∨
      ∃ t ∈ tokens, cause.position? = some t.position := by
  cases h with
  | empty => exact absurd rfl nonempty
  | trailing mem => exact .inr ⟨_, mem, rfl⟩
  | blamed blamed =>
      cases blamed with
      | endOfInput | endInParentheses => exact .inl ⟨rfl, by simp [SyntaxError.kind, Kind.atEnd]⟩
      | unclosed mem | strayClosing mem | unexpectedToken _ mem | expectedClosing mem
      | unknownName mem | argumentCount _ _ mem =>
          exact .inr ⟨_, mem, rfl⟩
      | tooDeeplyNested _ place =>
          rcases place with rfl | ⟨t, mem, rfl⟩
          · exact .inl ⟨rfl, by simp [SyntaxError.kind, Kind.atEnd]⟩
          · exact .inr ⟨t, mem, rfl⟩

/-- The name in an error is the text of the name that the error is about. -/
theorem Parsing.Rejects.exists_name (h : Rejects limit finish tokens cause)
    (kind : cause.kind = .unknownFunction ∨ cause.kind = .arityMismatch) :
    ∃ t ∈ tokens, t.kind = .name ∧ (cause = .unknownName t.text t.position ∨
      ∃ arity given, cause = .argumentCount t.text arity given t.position) := by
  cases h with
  | empty | trailing => simp [SyntaxError.kind] at kind
  | blamed blamed =>
      cases blamed with
      | unknownName mem name => exact ⟨_, mem, name, .inl rfl⟩
      | argumentCount arity given mem name => exact ⟨_, mem, name, .inr ⟨arity, given, rfl⟩⟩
      | _ => simp [SyntaxError.kind] at kind

end Tokens

namespace Failure

variable {source : String} {tokens : List Token} {limit : Int}

/-- A failure stands where its kind says, in the given text or directly behind it. -/
structure Placed (source : String) (cause : Failure) : Prop where
  /-- Just the kinds without a position have none. -/
  unplaced : cause.position? = none ↔ cause.kind ∈ Kind.unplaced
  /-- A lexical error stands at a character that is no layout. -/
  character : cause.kind ∈ Kind.lexical →
    ∃ (offset : Nat) (c : Char), cause.position? = some (offset : Int) ∧
      source.toList[offset]? = some c ∧ isLayout c = false
  /-- Any other error in the text stands at a token, that of the end for some kinds only. -/
  token : cause.kind ∈ Kind.syntactic → cause.kind ≠ .emptyExpression →
    ∃ tokens t, scan source = .ok tokens ∧ t ∈ tokens ∧ cause.position? = some t.position ∧
      (t.position = source.length → cause.kind ∈ Kind.atEnd)
  /-- An error about a name stands at a token with this name. -/
  name : cause.kind = .unknownFunction ∨ cause.kind = .arityMismatch →
    ∃ tokens t, scan source = .ok tokens ∧ t ∈ tokens ∧ t.kind = .name ∧
      (cause = .syntactic (.unknownName t.text t.position) ∨
        ∃ arity given, cause = .syntactic (.argumentCount t.text arity given t.position))
  /-- A marker for the failure stands at its position. -/
  clamp : ∀ position, cause.position? = some position →
    (Marker.clamp source.toList position : Int) = position

theorem placed_of_scan_error {cause : LexicalError} (stopped : scan source = .error cause) :
    Placed source (.lexical cause) := by
  obtain ⟨c, found, visible⟩ := exists_visible_of_scan stopped
  have inside : cause.position < source.toList.length := (List.getElem?_eq_some_iff.1 found).1
  obtain ⟨placed, other⟩ := Kind.not_mem_of_lexical cause.kind_mem
  constructor
  case unplaced => exact iff_of_false nofun placed
  case character => exact fun _ => ⟨cause.position, c, rfl, found, visible⟩
  case token => exact fun syntactic => absurd syntactic other
  case name => exact fun name => absurd (Kind.syntactic_of_name name) other
  case clamp =>
    rintro _ ⟨⟩
    exact Marker.clamp_eq_iff.2 ⟨Int.natCast_nonneg _, by omega⟩

theorem placed_of_unparsed {cause : SyntaxError} (scanned : scan source = .ok tokens)
    (unparsed : Expr.ofTokens limit tokens = .error (.failure cause)) :
    Placed source (.syntactic cause) := by
  have places := position_of_scan scanned
  obtain ⟨front, rfl, lexemes, rejected⟩ := rejects_of_scan scanned unparsed
  have token (nonempty : cause.kind ≠ .emptyExpression) :
      ∃ t ∈ front ++ [⟨.finish, "", source.length⟩], cause.position? = some t.position ∧
        (t.position = (source.length : Int) → cause.kind ∈ Kind.atEnd) := by
    rcases rejected.position?_eq nonempty with ⟨ends, kind⟩ | ⟨t, mem, place⟩
    · exact ⟨⟨.finish, "", source.length⟩, by simp, ends, fun _ => kind⟩
    · have mem' := List.mem_append_left [⟨.finish, "", (source.length : Int)⟩] mem
      have inner := ne_finish_of_isLexeme (lexemes t mem)
      exact ⟨t, mem', place, fun ends => absurd ((places t mem').2 ends) inner⟩
  obtain ⟨other, unplaced⟩ := Kind.not_mem_of_syntactic cause.kind_mem
  constructor
  case unplaced => exact SyntaxError.position?_eq_none_iff.trans unplaced.symm
  case character => exact fun lexical => absurd lexical other
  case token =>
    intro _ nonempty
    obtain ⟨t, mem, place, ends⟩ := token nonempty
    exact ⟨_, t, scanned, mem, place, ends⟩
  case name =>
    intro kind
    obtain ⟨t, mem, name, same⟩ := rejected.exists_name kind
    refine ⟨_, t, scanned, List.mem_append_left _ mem, name, ?_⟩
    rcases same with rfl | ⟨arity, given, rfl⟩
    · exact .inl rfl
    · exact .inr ⟨arity, given, rfl⟩
  case clamp =>
    intro position place
    have nonempty : cause.kind ≠ .emptyExpression := by
      rw [Ne, ← SyntaxError.position?_eq_none_iff, show cause.position? = _ from place]
      exact nofun
    obtain ⟨t, mem, place', -⟩ := token nonempty
    cases place'.symm.trans place
    rw [Marker.clamp_eq_iff, String.length_toList]
    exact (places t mem).1

theorem placed_of_arithmetical {cause : EvaluationError} (h : cause.kind ∈ Kind.arithmetical) :
    Placed source (.evaluation cause) := by
  obtain ⟨unplaced, notLexical, notSyntactic⟩ := Kind.not_mem_of_arithmetical h
  constructor
  case unplaced => exact iff_of_true rfl unplaced
  case character => exact fun lexical => absurd lexical notLexical
  case token => exact fun syntactic => absurd syntactic notSyntactic
  case name => exact fun name => absurd (Kind.syntactic_of_name name) notSyntactic
  case clamp => exact nofun

/-- What keeps a text from being parsed is placed in it. -/
theorem placed_of_parse {cause : Failure}
    (failed : Expr.parse limit source = .error (.failure cause)) : cause.Placed source := by
  unfold Expr.parse at failed
  cases scanned : scan source with
  | error lexical =>
      rw [scanned] at failed
      cases failed
      exact placed_of_scan_error scanned
  | ok tokens =>
      rw [scanned] at failed
      dsimp only at failed
      cases unparsed : Expr.ofTokens limit tokens with
      | ok e =>
          rw [unparsed] at failed
          cases failed
      | error fault =>
          rw [unparsed] at failed
          cases fault <;> cases failed
          exact placed_of_unparsed scanned unparsed

end Failure

/-- Where a calculation does not give a number, it gives a failure that is placed in its text. -/
theorem calculate_placed (context : Context) (source : String) (fault : Fault Failure)
    (failed : calculate context source = .error fault) :
    ∃ cause, fault = .failure cause ∧ cause.Placed source := by
  rcases calculate_failed failed with
    ⟨cause, stopped, rfl⟩ | ⟨tokens, cause, scanned, unparsed, rfl⟩ | ⟨cause, kind, rfl⟩
  · exact ⟨_, rfl, Failure.placed_of_scan_error stopped⟩
  · exact ⟨_, rfl, Failure.placed_of_unparsed scanned unparsed⟩
  · exact ⟨_, rfl, Failure.placed_of_arithmetical kind⟩

/-- In ` y` the name is at fault, which stands behind a blank. -/
theorem calculate_placed_unknown_name :
    calculate ⟨.platform, .default⟩ " y" = .error (.failure (.syntactic (.unknownName "y" 1))) ∧
      (Failure.syntactic (.unknownName "y" 1)).Placed " y" := by
  have name : IsName ['y'] :=
    ⟨List.cons_ne_nil _ _, List.forall_mem_singleton.2 (by decide)⟩
  have scanned : scan " y" = .ok [⟨.name, "y", 1⟩, ⟨.finish, "", 2⟩] :=
    ((Reaches.start.layout rfl).lexeme (.name name) (by simp)).scan_eq
  have unparsed : Expr.ofTokens Settings.default.maxDepth [⟨.name, "y", 1⟩, ⟨.finish, "", 2⟩] =
      .error (.failure (.unknownName "y" 1)) := by
    have cut : Expr.ofTokens Settings.default.maxDepth
        ([⟨.name, "y", 1⟩] ++ [⟨.finish, "", 2⟩]) = _ :=
      Expr.ofTokens_append rfl (by decide) (by decide)
    have unknown : Builtin.ofName? "y" = none ∧ Constant.ofName? "y" = none := by decide
    refine cut.trans ?_
    simp [expression, term, factor, Parsing.power, operand, unknown, fail, bind, Except.bind]
  have failed : calculate ⟨.platform, .default⟩ " y" =
      .error (.failure (.syntactic (.unknownName "y" 1))) := by
    rw [calculate_of_scan scanned, calculateTokens_of_error unparsed]
    rfl
  obtain ⟨cause, same, placed⟩ := calculate_placed _ _ _ failed
  cases same
  exact ⟨failed, placed⟩

end Reckoner
