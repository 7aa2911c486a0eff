import BoundSql.Assignment
import BoundSql.Join
import BoundSql.OrderBy
import BoundSql.Projection

/-!
# Statements

Selections, insertions, updates and deletions, and the order in which their clauses
stand. A selection needs a column, an insertion or update a value; a filter is optional,
and without one an update or deletion concerns every row.
-/

namespace BoundSql

/-- A table with the alias it is referenced by. -/
structure TableRef where
  /-- The name of the table. -/
  name : TableName
  /-- The alias. -/
  aliasName : TableName
deriving DecidableEq, Repr

/-- A table reference from its parts. The name is checked before the alias. -/
def TableRef.make (name aliasName : String) : Except QueryError TableRef := do
  let name ← TableName.read name
  let aliasName ← TableName.read aliasName
  return { name, aliasName }

/-- The WHERE clause of a filter; nothing for a block without parts. -/
def whereDraft (unqualified : Option TableName) (filter : Block) : Draft :=
  if filter.isEmpty then [] else Draft.text " WHERE " ++ filter.groupedDraft unqualified

/-- A clause binds the values of its filter. -/
@[simp] theorem values_whereDraft (unqualified : Option TableName) (filter : Block) :
    (whereDraft unqualified filter).values = filter.values := by
  cases filter with
  | empty => rfl
  | entry link part rest => simp [whereDraft, Block.isEmpty, Block.groupedDraft, Part.values]

/-- A selection. -/
structure Select where
  /-- The driving table. -/
  table : TableRef
  /-- The columns that are returned. -/
  columns : Projection
  /-- The joined tables, in order. -/
  joins : List Join := []
  /-- Which rows are returned. -/
  filter : Block := .empty
  /-- The orderings, the most significant first. -/
  orderings : List OrderBy := []

namespace Select

/-- The ORDER BY clause of the orderings that have columns. -/
def orderDraft (orderings : List OrderBy) : Draft :=
  match orderings.filter (!·.isEmpty) with
  | [] => []
  | used => Draft.text " ORDER BY " ++ Draft.separated ", " OrderBy.draft used

/-- The clauses of a selection, in order. -/
def draft (s : Select) : Draft :=
  Draft.text "SELECT " ++ s.columns.draft ++ Draft.text " FROM " ++ Draft.text s.table.name.text ++
    Draft.text " AS " ++ Draft.text s.table.aliasName.text ++
    s.joins.flatMap (fun join => Draft.text " " ++ join.draft) ++
    whereDraft none s.filter ++ orderDraft s.orderings

/-- The finished draft of a selection, which needs a column. -/
def assemble (s : Select) : Except QueryError Draft :=
  if s.columns.isEmpty then .error (.noColumns s.table.name) else .ok s.draft.canonical

end Select

/-- An insertion of one row. -/
structure Insert where
  /-- The table. -/
  table : TableRef
  /-- The columns and their values. -/
  assignments : List Assignment

namespace Insert

/-- The columns, and a placeholder for every value. -/
def draft (s : Insert) : Draft :=
  Draft.text "INSERT INTO " ++ Draft.text s.table.name.text ++ Draft.text "( " ++
    Draft.separated ", " Assignment.targetDraft s.assignments ++ Draft.text " ) VALUES( " ++
    Draft.separated ", " (fun a => Draft.param a.value) s.assignments ++ Draft.text " )"

/-- The finished draft of an insertion, which needs a value. -/
def assemble (s : Insert) : Except QueryError Draft :=
  if s.assignments.isEmpty then .error (.noValues s.table.name) else .ok s.draft.canonical

end Insert

/-- An update of the rows a filter admits. -/
structure Update where
  /-- The table. -/
  table : TableRef
  /-- The columns and their new values. -/
  assignments : List Assignment
  /-- Which rows are changed. -/
  filter : Block := .empty

namespace Update

/-- The assignments, and the filter. -/
def draft (s : Update) : Draft :=
  Draft.text "UPDATE " ++ Draft.text s.table.name.text ++ Draft.text " " ++
    Draft.text s.table.aliasName.text ++ Draft.text " SET " ++
    Draft.separated ", " Assignment.draft s.assignments ++ whereDraft none s.filter

/-- The finished draft of an update, which needs an assignment. -/
def assemble (s : Update) : Except QueryError Draft :=
  if s.assignments.isEmpty then .error (.noAssignments s.table.name) else .ok s.draft.canonical

end Update

/-- A deletion of the rows a filter admits. A deletion has no alias, so the filter is
written without its qualifier. -/
structure Delete where
  /-- The table. -/
  table : TableRef
  /-- Which rows are deleted. -/
  filter : Block := .empty

namespace Delete

/-- The table, and the filter without the qualifier of the table's alias. -/
def draft (s : Delete) : Draft :=
  Draft.text "DELETE FROM " ++ Draft.text s.table.name.text ++
    whereDraft (some s.table.aliasName) s.filter

/-- The finished draft of a deletion. -/
def assemble (s : Delete) : Draft := s.draft.canonical

end Delete

end BoundSql
