import BoundSql.Block

/-!
# Filters

A block that grows over time for one table alias. Every condition added through a filter
is qualified with its alias. A requested combinator is kept until the next part is
added and links that part alone; a refused step keeps it, as does an empty filter, which
adds nothing.
-/

namespace BoundSql

/-- A block under construction for one alias. -/
structure Filter where
  /-- The alias that qualifies every condition added here. -/
  aliasName : TableName
  /-- The parts added since the last `clear`. -/
  block : Block
  /-- The combinator requested for the next part. -/
  pending : Option Combinator
deriving DecidableEq, Repr

/-- A change of a filter. -/
inductive FilterStep where
  /-- Adds a condition on a column of the filter's alias. -/
  | condition (column : String) (comparison : Comparison) (operand : Operand)
  /-- Requests the combinator of the next part. -/
  | combinator (combinator : Combinator)
  /-- Nests the block of another filter. -/
  | group (other : Filter)
  /-- Removes all parts and a requested combinator. -/
  | clear

namespace FilterStep

/-- The column equals a value. -/
def equal (column : String) (value : Value) : FilterStep :=
  .condition column .equal (.single value)

/-- The column differs from a value. -/
def notEqual (column : String) (value : Value) : FilterStep :=
  .condition column .notEqual (.single value)

/-- The column is greater than a value. -/
def greater (column : String) (value : Value) : FilterStep :=
  .condition column .greater (.single value)

/-- The column is a value or greater. -/
def greaterOrEqual (column : String) (value : Value) : FilterStep :=
  .condition column .greaterOrEqual (.single value)

/-- The column is less than a value. -/
def less (column : String) (value : Value) : FilterStep :=
  .condition column .less (.single value)

/-- The column is a value or less. -/
def lessOrEqual (column : String) (value : Value) : FilterStep :=
  .condition column .lessOrEqual (.single value)

/-- The column matches a pattern. -/
def like (column pattern : String) : FilterStep :=
  .condition column .like (.single (.text pattern))

/-- The column is one of the values. -/
def among (column : String) (values : List Value) : FilterStep :=
  .condition column .among (.list values)

/-- The column is none of the values. -/
def notAmong (column : String) (values : List Value) : FilterStep :=
  .condition column .notAmong (.list values)

/-- The column is absent. -/
def isNull (column : String) : FilterStep := .condition column .isNull .none

/-- The column is present. -/
def isNotNull (column : String) : FilterStep := .condition column .isNotNull .none

end FilterStep

namespace Filter

/-- The filter of an alias, without parts. -/
def empty (aliasName : TableName) : Filter := ⟨aliasName, .empty, none⟩

/-- The filter of an alias given as text, without parts. -/
def make (aliasName : String) : Except QueryError Filter := (TableName.read aliasName).map empty

/-- Whether a filter has no part. -/
def isEmpty (filter : Filter) : Bool := filter.block.isEmpty

/-- The filter without its parts and without a requested combinator. -/
def clear (filter : Filter) : Filter := empty filter.aliasName

/-- Adds a condition on a column of the filter's alias, linked by the requested
combinator. -/
def addCondition (filter : Filter) (column : String) (comparison : Comparison)
    (operand : Operand) : Except QueryError Filter :=
  (Condition.make filter.aliasName.text column comparison operand).map fun condition =>
    { filter with
      block := filter.block.addCondition filter.pending condition
      pending := none }

/-- Requests the combinator of the next part, which has to have a part before it and no
request yet. -/
def addCombinator (filter : Filter) (combinator : Combinator) : Except QueryError Filter :=
  if filter.isEmpty then .error (.filterStart filter.aliasName combinator)
  else match filter.pending with
    | some kept => .error (.combinatorPending filter.aliasName kept)
    | none => .ok { filter with pending := some combinator }

/-- Nests the block of another filter, linked by the requested combinator. An empty
filter adds nothing and leaves the request. -/
def addGroup (filter other : Filter) : Filter :=
  if other.isEmpty then filter
  else
    { filter with
      block := filter.block.addGroup filter.pending other.block
      pending := none }

/-- The filter after a step, or the reason why it is refused. -/
def step (filter : Filter) : FilterStep → Except QueryError Filter
  | .condition column comparison operand => filter.addCondition column comparison operand
  | .combinator combinator => filter.addCombinator combinator
  | .group other => .ok (filter.addGroup other)
  | .clear => .ok filter.clear

/-- The filter of an alias after the given steps; the first refused one is the answer. -/
def build (aliasName : String) (steps : List FilterStep) : Except QueryError Filter := do
  steps.foldlM step (← make aliasName)

/-- Filters agree if they have the same alias and request and their blocks agree. -/
def agrees (x y : Filter) : Bool :=
  x.aliasName == y.aliasName && x.block.agrees y.block && x.pending == y.pending

end Filter

end BoundSql
