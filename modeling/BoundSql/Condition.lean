import BoundSql.Draft
import BoundSql.QueryError

/-!
# Conditions

One comparison of a column, qualified by a table name or alias or bare, with the values
its operator takes. A condition carries the proof that its operator admits its operand.
-/

namespace BoundSql

/-- A single comparison. -/
structure Condition where
  /-- The table name or alias the column is qualified with. -/
  qualifier : Option TableName
  /-- The column that is compared. -/
  column : ColumnName
  /-- The operator. -/
  comparison : Comparison
  /-- What the column is compared with. -/
  operand : Operand
  /-- The operator takes that many values. -/
  admitted : comparison.Admits operand
deriving DecidableEq, Repr

namespace Condition

/-- Reads a qualifier; an empty text is none. -/
def readQualifier (name : String) : Except QueryError (Option TableName) :=
  if name = "" then .ok none else (TableName.read name).map some

/-- A condition from its parts. The column is checked first, then the qualifier, then
that the operator takes that many values. -/
def make (qualifier column : String) (comparison : Comparison) (operand : Operand) :
    Except QueryError Condition := do
  let column ← ColumnName.read column
  let qualifier ← readQualifier qualifier
  if admitted : comparison.Admits operand then
    return { qualifier, column, comparison, operand, admitted }
  else if operand.arity = comparison.arity then
    throw (.emptyList column comparison)
  else
    throw (.arityMismatch column comparison operand.arity)

/-- The text of the qualifier, empty for a bare column. -/
def qualifierText (c : Condition) : String := c.qualifier.elim "" TableName.text

/-- Conditions agree if they compare the same column in the same way with values that
agree. -/
def agrees (x y : Condition) : Bool :=
  x.qualifier == y.qualifier && x.column == y.column && x.comparison == y.comparison &&
    x.operand.agrees y.operand

/-- The operand after its operator: one value, or values in parentheses. -/
def operandDraft : Operand → Draft
  | .none => []
  | .single v => Draft.text " " ++ Draft.param v
  | .list vs => Draft.text " (" ++ Draft.separated ", " Draft.param vs ++ Draft.text ")"

/-- The qualifier with its point; none where it is `unqualified`. -/
def qualifierDraft (unqualified : Option TableName) : Option TableName → Draft
  | none => []
  | some name => if unqualified = some name then [] else Draft.text name.text ++ Draft.text "."

/-- The condition as `( qualifier.column OP values )`. -/
def draft (unqualified : Option TableName) (c : Condition) : Draft :=
  Draft.text "( " ++ qualifierDraft unqualified c.qualifier ++ Draft.text c.column.text ++
    Draft.text " " ++ Draft.text c.comparison.sql ++ operandDraft c.operand ++ Draft.text " )"

/-- An operand binds its values, in order. -/
@[simp] theorem values_operandDraft (operand : Operand) :
    (operandDraft operand).values = operand.values := by
  cases operand with
  | none => rfl
  | single v => rfl
  | list vs => simp [operandDraft, Operand.values]

/-- A qualifier binds nothing. -/
@[simp] theorem values_qualifierDraft (unqualified qualifier : Option TableName) :
    (qualifierDraft unqualified qualifier).values = [] := by
  cases qualifier with
  | none => rfl
  | some name => simp only [qualifierDraft]; split <;> rfl

/-- A condition binds the values of its operand, in order. -/
@[simp] theorem values_draft (unqualified : Option TableName) (c : Condition) :
    (c.draft unqualified).values = c.operand.values := by
  simp [draft]

end Condition

end BoundSql
