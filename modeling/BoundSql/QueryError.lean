import BoundSql.Combinator
import BoundSql.Comparison
import BoundSql.Identifier

/-!
# Errors of statement construction

Every cause for which a condition, a block, a filter or a statement is refused, and the
sentence that explains it.
-/

namespace BoundSql

/-- Why a statement, or a part of one, cannot be built. -/
inductive QueryError where
  /-- A name is refused. -/
  | identifier (fault : NameFault)
  /-- The operand has another arity than the operator of the condition on `column`. -/
  | arityMismatch (column : ColumnName) (comparison : Comparison) (found : Arity)
  /-- The condition on `column` has a list without values. -/
  | emptyList (column : ColumnName) (comparison : Comparison)
  /-- The first part of a block comes with a combinator. -/
  | leadingCombinator (combinator : Combinator)
  /-- A later part of a block comes without a combinator. -/
  | missingCombinator
  /-- A combinator is requested for the first part of the filter on `table`. -/
  | filterStart (table : TableName) (combinator : Combinator)
  /-- A second combinator is requested while the filter on `table` keeps one. -/
  | combinatorPending (table : TableName) (kept : Combinator)
  /-- A selection from `table` has no column. -/
  | noColumns (table : TableName)
  /-- An insertion into `table` has no value. -/
  | noValues (table : TableName)
  /-- An update of `table` has no assignment. -/
  | noAssignments (table : TableName)
deriving DecidableEq, Repr

namespace QueryError

/-- What an ill-formed condition, filter or statement is reported as. -/
def detail : QueryError → String
  | .identifier fault => fault.message
  | .arityMismatch _ comparison found =>
    "operator " ++ comparison.sql ++ " expects " ++ comparison.arity.label ++
      " value(s), got " ++ found.label
  | .emptyList _ comparison => "operator " ++ comparison.sql ++ " needs at least one value"
  | .leadingCombinator combinator => "block cannot start with " ++ combinator.sql
  | .missingCombinator => "missing combinator between block parts"
  | .filterStart table combinator =>
    "filter " ++ table.text ++ " cannot start with " ++ combinator.sql
  | .combinatorPending table kept =>
    "filter " ++ table.text ++ " already waits for a part after " ++ kept.sql
  | .noColumns table => "select on " ++ table.text ++ " has no columns"
  | .noValues table => "insert into " ++ table.text ++ " has no values"
  | .noAssignments table => "update of " ++ table.text ++ " has no assignments"

/-- What the detail is about. -/
def subject : QueryError → String
  | .identifier _ => "Invalid identifier"
  | .arityMismatch column .. | .emptyList column _ =>
    "Invalid condition on '" ++ column.text ++ "'"
  | .leadingCombinator _ | .missingCombinator | .filterStart .. | .combinatorPending .. =>
    "Malformed filter"
  | .noColumns _ | .noValues _ | .noAssignments _ => "Empty statement"

/-- The sentence that explains an error. -/
def message (error : QueryError) : String := error.subject ++ ": " ++ error.detail

end QueryError

/-- A column name, whose fault is an error of the statement it is meant for. -/
def ColumnName.read (name : String) : Except QueryError ColumnName :=
  (ColumnName.parse name).mapError .identifier

/-- A table name, whose fault is an error of the statement it is meant for. -/
def TableName.read (name : String) : Except QueryError TableName :=
  (TableName.parse name).mapError .identifier

/-- A legal text is read as itself. -/
@[simp] theorem ColumnName.read_text (name : ColumnName) :
    ColumnName.read name.text = .ok name := by
  rw [ColumnName.read, ColumnName.parse_text]
  rfl

/-- A legal text is read as itself. -/
@[simp] theorem TableName.read_text (name : TableName) :
    TableName.read name.text = .ok name := by
  rw [TableName.read, TableName.parse_text]
  rfl

end BoundSql
