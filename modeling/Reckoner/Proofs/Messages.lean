import Reckoner.Proofs.Calculation
import Reckoner.Proofs.Decimal.Characters
import Reckoner.Proofs.Parsing.Blame

/-!
# Messages are lines

The message of a failed calculation has no line break, whatever the text of the expression is.  A
message shows a piece of the text between quotes, where a line break is escaped, or it shows a name,
which is that of a token or of a function.
-/

namespace Reckoner

open Parsing Text

variable {tokens : List Token} {limit : Int}

section Parts

@[simp] theorem Kind.lineBreak_not_mem_name (kind : Kind) : '\n' ∉ kind.name.toList := by
  cases kind <;> simp [name]

@[simp] theorem Builtin.lineBreak_not_mem_name (function : Builtin) :
    '\n' ∉ function.name.toList := by
  cases function <;> simp [name]

@[simp] theorem Operator.lineBreak_not_mem_symbol (operator : Operator) :
    '\n' ∉ operator.symbol.toList := by
  cases operator <;> simp [symbol]

@[simp] theorem lineBreak_not_mem_naturalText (n : Nat) : '\n' ∉ (naturalText n).toList := by
  apply isLine_of_isNumberChar
  rw [naturalText, String.toList_ofList]
  exact Layout.isNumberChar_decimalDigits n

@[simp] theorem lineBreak_not_mem_integerText (n : Int) : '\n' ∉ (integerText n).toList :=
  isLine_of_isNumberChar (isNumberChar_integerText n)

@[simp] theorem Binary64.lineBreak_not_mem_operandText (x : Binary64) :
    '\n' ∉ x.operandText.toList :=
  isLine_of_isNumberChar (isNumberChar_textWith _ _ x)

/-- A name that is a lexeme is a line. -/
theorem Token.isLine_text {token : Token} (lexeme : IsLexeme token.kind token.text.toList)
    (kind : token.kind = .name) : IsLine token.text := by
  rw [kind] at lexeme
  cases lexeme with
  | name letters => exact fun mem => absurd (letters.2 _ mem) (by decide)

theorem isLine_argumentCountMessage {name : String} (line : IsLine name) (arity given : Nat) :
    IsLine (argumentCountMessage name arity given) := by
  rw [isLine_iff] at line
  unfold argumentCountMessage
  split <;> simp [line]

theorem Expectation.OfRule.isLine_text {expected : Expectation} (rule : expected.OfRule) :
    IsLine expected.text := by
  cases rule <;> unfold Expectation.text <;> simp

end Parts

section Phases

/-- A lexical error quotes every piece of the text that it shows. -/
theorem LexicalError.isLine_message (cause : LexicalError) : IsLine cause.message := by
  cases cause <;> unfold message <;> simp

/-- A syntax error about tokens whose names are lines shows only these names without quotes. -/
theorem Parsing.Blames.isLine_message {finish : Int} {cause : SyntaxError}
    (h : Blames limit finish tokens (.failure cause))
    (lines : ∀ t ∈ tokens, t.kind = .name → IsLine t.text) : IsLine cause.message := by
  cases h with
  | endOfInput rule | endInParentheses rule | unexpectedToken rule =>
      have line := isLine_iff.1 rule.isLine_text
      unfold SyntaxError.message
      simp [line]
  | unclosed | strayClosing | tooDeeplyNested | expectedClosing =>
      unfold SyntaxError.message
      simp
  | unknownName mem kind =>
      have line := isLine_iff.1 (lines _ mem kind)
      unfold SyntaxError.message
      simp [line]
  | argumentCount arity given mem kind =>
      exact isLine_argumentCountMessage (lines _ mem kind) arity given

/-- A syntax error about tokens that are parsed as a whole is no exception. -/
theorem Parsing.Rejects.isLine_message {finish : Int} {cause : SyntaxError}
    (h : Rejects limit finish tokens cause)
    (lines : ∀ t ∈ tokens, t.kind = .name → IsLine t.text) : IsLine cause.message := by
  cases h with
  | blamed blamed => exact blamed.isLine_message lines
  | empty | trailing =>
      unfold SyntaxError.message
      simp

theorem DomainError.isLine_message (cause : DomainError) : IsLine cause.message := by
  cases cause <;> unfold message <;> simp

/-- A failure of arithmetic shows numbers, and names of functions and operators. -/
theorem EvaluationError.isLine_message {cause : EvaluationError}
    (arithmetical : cause.kind ∈ Kind.arithmetical) : IsLine cause.message := by
  cases cause with
  | unknownFunction | argumentCount => simp [kind, Kind.arithmetical] at arithmetical
  | divisionByZero =>
      unfold message
      simp
  | domain cause => exact cause.isLine_message

end Phases

/-- The message of a failed calculation is a line. -/
theorem isLine_message_of_calculate {context : Context} {source : String} {cause : Failure}
    (failed : calculate context source = .error (.failure cause)) : IsLine cause.message := by
  rcases calculate_failed failed with
    ⟨cause, -, ⟨⟩⟩ | ⟨tokens, cause, scanned, unparsed, ⟨⟩⟩ | ⟨cause, kind, ⟨⟩⟩
  · exact cause.isLine_message
  · obtain ⟨front, -, lexemes, rejected⟩ := rejects_of_scan scanned unparsed
    exact rejected.isLine_message fun t mem kind => Token.isLine_text (lexemes t mem) kind
  · exact EvaluationError.isLine_message kind

end Reckoner
