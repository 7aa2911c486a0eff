import BoundSql.Draft
import BoundSql.QueryError

/-!
# Orderings

The columns the rows of one alias are sorted by, the most significant first.
-/

namespace BoundSql

/-- The direction of a sort. -/
inductive SortOrder where
  /-- The least first. -/
  | ascending
  /-- The greatest first. -/
  | descending
deriving DecidableEq, Repr

/-- Unless something else is asked for, the greatest come first. -/
instance : Inhabited SortOrder := ⟨.descending⟩

/-- The direction in SQL. -/
def SortOrder.sql : SortOrder → String
  | .ascending => "ASC"
  | .descending => "DESC"

/-- The columns of one alias that rows are sorted by. -/
structure OrderBy where
  /-- The alias the columns are qualified with. -/
  aliasName : TableName
  /-- The columns and their directions, in order. -/
  entries : List (ColumnName × SortOrder)
deriving DecidableEq, Repr

namespace OrderBy

/-- The ordering of an alias without columns. -/
def empty (aliasName : TableName) : OrderBy := ⟨aliasName, []⟩

/-- The ordering of an alias given as text, without columns. -/
def make (aliasName : String) : Except QueryError OrderBy := (TableName.read aliasName).map empty

/-- Adds a column as the least significant one. -/
def add (ordering : OrderBy) (column : String) (order : SortOrder) :
    Except QueryError OrderBy :=
  (ColumnName.read column).map fun column =>
    { ordering with entries := ordering.entries ++ [(column, order)] }

/-- The ordering without its columns. -/
def clear (ordering : OrderBy) : OrderBy := empty ordering.aliasName

/-- Whether no column is sorted by. -/
def isEmpty (ordering : OrderBy) : Bool := ordering.entries.isEmpty

/-- The columns as `alias.column DIRECTION`, separated by commas. -/
def draft (ordering : OrderBy) : Draft :=
  Draft.separated ", "
    (fun (column, order) =>
      Draft.text ordering.aliasName.text ++ Draft.text "." ++ Draft.text column.text ++
        Draft.text " " ++ Draft.text order.sql)
    ordering.entries

/-- An ordering binds nothing. -/
@[simp] theorem values_draft (ordering : OrderBy) : ordering.draft.values = [] := by
  simp [draft]

end OrderBy

end BoundSql
