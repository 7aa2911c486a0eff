import BoundSql.Draft
import BoundSql.QueryError

/-!
# Assignments

Columns with the values an insertion or an update writes into them.
-/

namespace BoundSql

/-- A column with the value written into it. -/
structure Assignment where
  /-- The column that is written. -/
  column : ColumnName
  /-- The table name or alias the column is qualified with. -/
  qualifier : TableName
  /-- The value that is written. -/
  value : Value
deriving DecidableEq, Repr

namespace Assignment

/-- An assignment from its parts. The column is checked first. -/
def make (column qualifier : String) (value : Value) : Except QueryError Assignment := do
  let column ← ColumnName.read column
  let qualifier ← TableName.read qualifier
  return { column, qualifier, value }

/-- The target of an insertion, as `qualifier.column`. -/
def targetDraft (a : Assignment) : Draft :=
  Draft.text a.qualifier.text ++ Draft.text "." ++ Draft.text a.column.text

/-- The assignment of an update: the quoted column, and its value after an equals sign. -/
def draft (a : Assignment) : Draft :=
  Draft.text a.qualifier.text ++ Draft.text ".`" ++ Draft.text a.column.text ++
    Draft.text "` = " ++ Draft.param a.value

/-- A target binds nothing. -/
@[simp] theorem values_targetDraft (a : Assignment) : a.targetDraft.values = [] := rfl

/-- An assignment binds its value. -/
@[simp] theorem values_draft (a : Assignment) : a.draft.values = [a.value] := rfl

end Assignment

end BoundSql
