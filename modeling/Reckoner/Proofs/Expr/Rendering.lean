import Reckoner.Expr.Meaning
import Reckoner.Expr.Rendering

/-!
# The text of an expression by its parts

The canonical text of an expression is put together from the texts of its operands, which makes it
the text of plain recursion on the tree.  The nodes of an expression are those of its operands and
its own.

## Implementation notes

Writing and listing both carry what surrounds an expression.  `writeChain_eq` and `listOnto_eq` take
the surroundings off, so that the equations for the parts mention the parts alone.
-/

namespace Reckoner.Expr

variable {name : String} {value x : Binary64} {operator : Operator} {operand left right e : Expr}
  {arguments : List Expr}

section Text

attribute [local simp] writeChain

/-- Opened parentheses stand in front of the text of an expression, pending texts behind it. -/
theorem writeChain_eq (e : Expr) (opened : Nat) (pending : List (List Char)) :
    writeChain e opened pending =
      List.replicate opened '(' ++ (writeChain e 0 [] ++ pending.flatten) := by
  match e with
  | .binary operator left right =>
      rw [writeChain, writeChain, writeChain_eq left (opened + 1), writeChain_eq left (0 + 1),
        List.replicate_succ']
      simp
  | .number _ | .constant .. | .negate _ | .call .. => simp

theorem toList_text (e : Expr) : e.text.toList = writeChain e 0 [] := by
  rw [text, String.toList_ofList]

@[simp] theorem toList_text_number : (number value).text.toList = value.plainText.toList := by
  simp [toList_text]

@[simp] theorem toList_text_constant : (constant name value).text.toList = name.toList := by
  simp [toList_text]

@[simp] theorem toList_text_negate :
    (negate operand).text.toList = '(' :: ('-' :: operand.text.toList ++ [')']) := by
  simp [toList_text]

@[simp] theorem toList_text_binary : (binary operator left right).text.toList =
    '(' :: (left.text.toList ++
      ([' '] ++ (operator.symbol.toList ++ ([' '] ++ right.text.toList))) ++ [')']) := by
  rw [toList_text, writeChain, writeChain_eq]
  simp [closing, toList_text]

@[simp] theorem toList_text_call : (call name arguments).text.toList =
    name.toList ++ '(' :: (writeArguments arguments ++ [')']) := by
  simp [toList_text]

theorem writeArguments_singleton : writeArguments [e] = e.text.toList := by
  rw [writeArguments, toList_text]

theorem writeArguments_cons (nonempty : arguments ≠ []) :
    writeArguments (e :: arguments) =
      e.text.toList ++ ',' :: ([' '] ++ writeArguments arguments) := by
  cases arguments with
  | nil => exact absurd rfl nonempty
  | cons next others =>
      rw [writeArguments, toList_text]
      rfl

mutual

/-- The texts of the parts are joined as plain recursion joins them. -/
theorem toList_text_eq_canonical (e : Expr) : e.text.toList = e.canonical.toList := by
  match e with
  | .number value => rw [toList_text_number, canonical]
  | .constant name _ => rw [toList_text_constant, canonical]
  | .negate operand =>
      rw [toList_text_negate, canonical, toList_text_eq_canonical operand]
      simp
  | .binary operator left right =>
      rw [toList_text_binary, canonical, toList_text_eq_canonical left,
        toList_text_eq_canonical right]
      simp
  | .call name arguments =>
      rw [toList_text_call, canonical, writeArguments_eq_intercalate arguments]
      simp

/-- Arguments are written with a comma and a space between any two. -/
theorem writeArguments_eq_intercalate (arguments : List Expr) :
    writeArguments arguments = (", ".intercalate (canonicals arguments)).toList := by
  match arguments with
  | [] => rw [writeArguments, canonicals]; rfl
  | [argument] =>
      rw [writeArguments_singleton, toList_text_eq_canonical argument, canonicals, canonicals,
        String.intercalate_singleton]
  | argument :: next :: others =>
      have joined : canonicals (argument :: next :: others) =
          argument.canonical :: next.canonical :: canonicals others := by
        rw [canonicals, canonicals]
      rw [writeArguments_cons (List.cons_ne_nil _ _), toList_text_eq_canonical argument,
        writeArguments_eq_intercalate (next :: others), joined, String.intercalate_cons_cons,
        canonicals]
      simp

end

/-- The text that is written along chains of operations is that of plain recursion on the tree. -/
theorem text_eq_canonical (e : Expr) : e.text = e.canonical :=
  String.toList_inj.1 (toList_text_eq_canonical e)

end Text

section Nodes

attribute [local simp] listOnto listAllOnto

mutual

/-- The nodes of an expression stand in front of the further ones. -/
theorem listOnto_eq (e : Expr) (later : List Node) :
    listOnto e later = listOnto e [] ++ later := by
  match e with
  | .number _ | .constant .. => rfl
  | .negate operand =>
      rw [listOnto, listOnto, listOnto_eq operand, listOnto_eq operand [.negate]]
      simp
  | .binary operator left right =>
      rw [listOnto, listOnto, listOnto_eq left, listOnto_eq right (.binary operator :: later),
        listOnto_eq left (listOnto right _), listOnto_eq right [.binary operator]]
      simp
  | .call name arguments =>
      rw [listOnto, listOnto, listAllOnto_eq arguments,
        listAllOnto_eq arguments [.call name arguments.length]]
      simp

theorem listAllOnto_eq (exprs : List Expr) (later : List Node) :
    listAllOnto exprs later = listAllOnto exprs [] ++ later := by
  match exprs with
  | [] => rfl
  | expr :: others =>
      rw [listAllOnto, listAllOnto, listOnto_eq expr, listAllOnto_eq others,
        listOnto_eq expr (listAllOnto others [])]
      simp

end

@[simp] theorem number_mem_number :
    Node.number x ∈ (number value).postfixNodes ↔ x = value := by
  simp [postfixNodes]

@[simp] theorem number_mem_negate :
    Node.number x ∈ (negate operand).postfixNodes ↔ Node.number x ∈ operand.postfixNodes := by
  rw [postfixNodes, listOnto, listOnto_eq]
  simp [postfixNodes]

@[simp] theorem number_mem_binary :
    Node.number x ∈ (binary operator left right).postfixNodes ↔
      Node.number x ∈ left.postfixNodes ∨ Node.number x ∈ right.postfixNodes := by
  rw [postfixNodes, listOnto, listOnto_eq left, listOnto_eq right]
  simp [postfixNodes]

@[simp] theorem number_mem_call :
    Node.number x ∈ (call name arguments).postfixNodes ↔
      ∃ argument ∈ arguments, Node.number x ∈ argument.postfixNodes := by
  have all (exprs : List Expr) :
      Node.number x ∈ listAllOnto exprs [] ↔ ∃ e ∈ exprs, Node.number x ∈ e.postfixNodes := by
    induction exprs with
    | nil => simp
    | cons e others ih =>
        rw [listAllOnto, listOnto_eq]
        simp [postfixNodes, ih]
  rw [postfixNodes, listOnto, listAllOnto_eq]
  simpa using all arguments

end Nodes

end Reckoner.Expr
