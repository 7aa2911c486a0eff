import BoundSql.Draft
import BoundSql.QueryError

/-!
# Projections

The columns a selection returns, each qualified and each with its name in the result.
The columns of one table are resolved from its default columns and its own ones: every
name once, in the order of first occurrence, without the excluded names.
-/

namespace BoundSql

/-- The columns every table carries. -/
def defaultColumns : List String := ["id", "created_at", "modified_at"]

/-- One column of a selection. -/
structure ProjectedColumn where
  /-- The table name or alias the column is qualified with. -/
  qualifier : TableName
  /-- The column that is selected. -/
  column : ColumnName
deriving DecidableEq, Repr

/-- The columns of a selection, in order. -/
abbrev Projection := List ProjectedColumn

namespace ProjectedColumn

/-- A selected column from its parts. The qualifier is checked first. -/
def make (qualifier column : String) : Except QueryError ProjectedColumn := do
  let qualifier ← TableName.read qualifier
  let column ← ColumnName.read column
  return { qualifier, column }

/-- The name of a column in the result: its own name followed by the qualifier. -/
def resultName (c : ProjectedColumn) : String := c.column.text ++ c.qualifier.text

/-- The column as `qualifier.column AS name`. -/
def draft (c : ProjectedColumn) : Draft :=
  Draft.text c.qualifier.text ++ Draft.text "." ++ Draft.text c.column.text ++
    Draft.text " AS " ++ Draft.text c.resultName

end ProjectedColumn

/-- The names that are not in `seen`, each where it occurs first. -/
def firstOccurrences (seen : List String) : List String → List String
  | [] => []
  | name :: rest =>
    if name ∈ seen then firstOccurrences seen rest
    else name :: firstOccurrences (name :: seen) rest

/-- A name is kept exactly if it occurs and was not seen before. -/
theorem mem_firstOccurrences {name : String} {seen names : List String} :
    name ∈ firstOccurrences seen names ↔ name ∈ names ∧ name ∉ seen := by
  induction names generalizing seen with
  | nil => simp [firstOccurrences]
  | cons head rest ih =>
    by_cases known : head ∈ seen
    · simp only [firstOccurrences, known, if_true, ih, List.mem_cons]
      constructor
      · exact fun ⟨later, new⟩ => ⟨Or.inr later, new⟩
      · rintro ⟨rfl | later, new⟩
        · exact absurd known new
        · exact ⟨later, new⟩
    · simp only [firstOccurrences, known, if_false, List.mem_cons, ih]
      by_cases same : name = head
      · subst same
        simp [known]
      · simp [same]

/-- No name is kept twice. -/
theorem nodup_firstOccurrences (seen names : List String) :
    (firstOccurrences seen names).Nodup := by
  induction names generalizing seen with
  | nil => simp [firstOccurrences]
  | cons head rest ih =>
    unfold firstOccurrences
    split
    · exact ih seen
    · rw [List.nodup_cons]
      exact ⟨fun again => (mem_firstOccurrences.1 again).2 List.mem_cons_self, ih _⟩

namespace Projection

/-- The names a table is asked for: defaults, then its own columns, each name once and
none that is excluded. -/
def names (defaults columns excluded : List String) : List String :=
  (firstOccurrences [] (defaults ++ columns)).filter fun name => !excluded.contains name

/-- The selected columns of one table. The first refused name is the answer. -/
def resolve (qualifier : String) (defaults columns excluded : List String) :
    Except QueryError Projection :=
  (names defaults columns excluded).mapM (ProjectedColumn.make qualifier)

/-- The columns of a selection, separated by commas. -/
def draft (projection : Projection) : Draft :=
  Draft.separated ", " ProjectedColumn.draft projection

/-- A selection of columns binds nothing. -/
@[simp] theorem values_draft (projection : Projection) : (draft projection).values = [] := by
  simp [draft, ProjectedColumn.draft]

end Projection

end BoundSql
