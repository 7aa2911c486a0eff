import BoundSql.Block.Draft

/-!
# Joins

A table that is joined to a selection, and the counts of the joins of a statement by
their kind and by how many rows each can add.
-/

namespace BoundSql

/-- Which rows a join keeps. -/
inductive JoinKind where
  /-- Rows with a partner on both sides. -/
  | inner
  /-- All rows of the left side. -/
  | left
deriving DecidableEq, Repr

/-- The kind of a join in SQL. -/
def JoinKind.sql : JoinKind → String
  | .inner => "JOIN"
  | .left => "LEFT JOIN"

/-- How many joined rows one driving row can have. -/
inductive Cardinality where
  /-- At most one. -/
  | oneToOne
  /-- Any number. -/
  | oneToMany
deriving DecidableEq, Repr

/-- A table joined to a selection. -/
structure Join where
  /-- The joined table. -/
  table : TableName
  /-- The alias it is referenced by. -/
  aliasName : TableName
  /-- The condition that links it to the tables before it. -/
  condition : Block
  /-- Which rows the join keeps. -/
  kind : JoinKind
  /-- How many rows it can add for one row. -/
  cardinality : Cardinality
deriving DecidableEq, Repr

namespace Join

/-- A join from its parts. The table is checked before the alias. -/
def make (table aliasName : String) (condition : Block) (kind : JoinKind) (cardinality : Cardinality) :
    Except QueryError Join := do
  let table ← TableName.read table
  let aliasName ← TableName.read aliasName
  return { table, aliasName, condition, kind, cardinality }

/-- A join on a raw expression. -/
def onText (table aliasName expression : String) (kind : JoinKind) (cardinality : Cardinality) :
    Except QueryError Join :=
  make table aliasName (Block.empty.addText expression) kind cardinality

/-- The join as `JOIN table alias ON ( condition )`. -/
def draft (join : Join) : Draft :=
  Draft.text join.kind.sql ++ Draft.text " " ++ Draft.text join.table.text ++ Draft.text " " ++
    Draft.text join.aliasName.text ++ Draft.text " ON ( " ++ join.condition.draft none ++ Draft.text " )"

/-- A join binds the values of its condition. -/
@[simp] theorem values_draft (join : Join) : join.draft.values = join.condition.values := by
  simp [draft]

end Join

/-- How many joins of each kind and of each cardinality a statement has. -/
structure JoinCounts where
  /-- Inner joins. -/
  inner : Nat
  /-- Left joins. -/
  left : Nat
  /-- Joins that add at most one row. -/
  oneToOne : Nat
  /-- Joins that may add several rows. -/
  oneToMany : Nat
deriving DecidableEq, Repr

namespace JoinCounts

/-- The counts of a list of joins. -/
def of (joins : List Join) : JoinCounts :=
  { inner := joins.countP (·.kind = .inner)
    left := joins.countP (·.kind = .left)
    oneToOne := joins.countP (·.cardinality = .oneToOne)
    oneToMany := joins.countP (·.cardinality = .oneToMany) }

/-- The number of joins. -/
def total (counts : JoinCounts) : Nat := counts.inner + counts.left

/-- Every join is of one kind. -/
theorem total_of (joins : List Join) : (of joins).total = joins.length := by
  simp only [total, of]
  induction joins with
  | nil => rfl
  | cons join rest ih => cases shape : join.kind <;> simp [shape] <;> omega

/-- Every join has one cardinality. -/
theorem cardinalities_of (joins : List Join) :
    (of joins).oneToOne + (of joins).oneToMany = joins.length := by
  simp only [of]
  induction joins with
  | nil => rfl
  | cons join rest ih => cases shape : join.cardinality <;> simp [shape] <;> omega

end JoinCounts

end BoundSql
