import BoundSql.Event
import BoundSql.Filter
import BoundSql.Statement

/-!
# Entity gateways

The statements of one table. A gateway keeps a filter, an ordering and joins between
statements; selections use all three, updates and deletions the filter alone. A new gateway
has a filter and an ordering of its own alias, but others may be put in their place. Writing
an entity stamps it with the time that is bound, and only if the statement can be built.
-/

namespace BoundSql

/-- A column of an entity that insertions and updates write. -/
structure WritableColumn (E : Type) where
  /-- The name of the column. -/
  name : String
  /-- The value an entity has for it; none if the attribute is not set. -/
  read : E → Option Value

/-- How entities of a type are kept in a table. -/
structure TableDefinition (E : Type) where
  /-- The name of the table. -/
  name : String
  /-- The alias of the table unless another is given. -/
  defaultAlias : String
  /-- The columns a selection returns besides the default ones. -/
  columns : List String
  /-- The default columns the table does not have. -/
  missing : List String
  /-- The columns that are written, in order. -/
  writable : List (WritableColumn E)
  /-- The entity with the time of its creation. -/
  stampCreated : Instant → E → E
  /-- The entity with the time of its last change. -/
  stampModified : Instant → E → E

/-- What a selection comes to: the events on the way, and the statement. -/
structure Reply (α : Type) where
  /-- What is reported, in order. -/
  events : List Event
  /-- The result, or the reason why there is none. -/
  result : Except QueryError α

/-- The reply to a selection: its joins are reported before its columns are looked at. -/
def Select.reply (settings : Settings) (s : Select) : Reply Query :=
  { events :=
      if settings.reportsJoins then (JoinCounts.of s.joins).report settings.warning else []
    result := s.assemble.map (·.bake settings.style) }

/-- The reply that a selection made of `parts` gives; nothing is reported if they fail. -/
def Reply.ofSelect (settings : Settings) (parts : Except QueryError Select) : Reply Query :=
  match parts with
  | .error cause => ⟨[], .error cause⟩
  | .ok s => s.reply settings

/-- The statements of one table. -/
structure EntityGateway (E : Type) where
  /-- How entities are kept in the table. -/
  definition : TableDefinition E
  /-- The table and its alias. -/
  table : TableRef
  /-- The settings of the statements. -/
  settings : Settings
  /-- The filter of the statements. -/
  filter : Filter
  /-- The ordering of selections. -/
  ordering : OrderBy
  /-- The joins of selections. -/
  joins : List Join

/-- A change of what a gateway keeps. -/
inductive GatewayChange where
  /-- A step of the filter. -/
  | filter (step : FilterStep)
  /-- Nests a filter of an alias, built by the given steps, into the filter. -/
  | nest (aliasName : String) (steps : List FilterStep)
  /-- Adds a join. -/
  | join (join : Join)
  /-- Adds a column to the ordering. -/
  | orderBy (column : String) (order : SortOrder)
  /-- Removes the columns of the ordering. -/
  | clearOrdering
  /-- Removes the parts of the filter. -/
  | clearFilter
  /-- Puts another filter in the place of the filter. -/
  | setFilter (filter : Filter)
  /-- Puts another ordering in the place of the ordering. -/
  | setOrdering (ordering : OrderBy)

namespace EntityGateway

variable {E : Type}

/-- A gateway that references its table by the given alias. -/
def makeAs (definition : TableDefinition E) (aliasName : String) (settings : Settings) :
    Except QueryError (EntityGateway E) :=
  (TableRef.make definition.name aliasName).map fun table =>
    { definition, table, settings
      filter := .empty table.aliasName
      ordering := .empty table.aliasName
      joins := [] }

/-- A gateway that references its table by its default alias. -/
def make (definition : TableDefinition E) (settings : Settings) :
    Except QueryError (EntityGateway E) :=
  makeAs definition definition.defaultAlias settings

/-- The name a column has in the result of a selection. -/
def resultName (g : EntityGateway E) (column : String) : String :=
  column ++ g.table.aliasName.text

/-- The columns a selection returns. -/
def projection (g : EntityGateway E) (excluded : List String) : Except QueryError Projection :=
  Projection.resolve g.table.aliasName.text defaultColumns g.definition.columns
    (g.definition.missing ++ excluded)

/-- The rows the filter admits. -/
def get (g : EntityGateway E) (excluded : List String) : Reply Query :=
  Reply.ofSelect g.settings do
    let columns ← g.projection excluded
    return { table := g.table, columns, joins := g.joins, filter := g.filter.block
             orderings := [g.ordering] }

/-- The row with the given identity. The filter takes no part. -/
def getById (g : EntityGateway E) (id : Value) (excluded : List String) : Reply Query :=
  Reply.ofSelect g.settings do
    let columns ← g.projection excluded
    let identity ← (Filter.empty g.table.aliasName).step (.equal "id" id)
    return { table := g.table, columns, joins := g.joins, filter := identity.block
             orderings := [g.ordering] }

/-- The assignments of the attributes an entity has, in the order of the definition. -/
def assignments (definition : TableDefinition E) (qualifier : String) (entity : E) :
    Except QueryError (List Assignment) :=
  (definition.writable.filterMap fun column => (column.read entity).map (column.name, ·)).mapM
    fun (column, value) => Assignment.make column qualifier value

/-- The insertion of an entity at the time `now`, and the entity with that stamp. Its
columns are qualified with the name of the table. -/
def insert (g : EntityGateway E) (now : Instant) (entity : E) : Except QueryError (Query × E) := do
  let attributes ← assignments g.definition g.definition.name entity
  let stamp ← Assignment.make "created_at" g.definition.name (.instant now)
  let draft ← Insert.assemble { table := g.table, assignments := attributes ++ [stamp] }
  return (draft.bake g.settings.style, g.definition.stampCreated now entity)

/-- The update of the rows the filter admits at the time `now`, and the entity with that
stamp. Its columns are qualified with the alias. -/
def update (g : EntityGateway E) (now : Instant) (entity : E) : Except QueryError (Query × E) := do
  let attributes ← assignments g.definition g.table.aliasName.text entity
  let stamp ← Assignment.make "modified_at" g.table.aliasName.text (.instant now)
  let draft ← Update.assemble
    { table := g.table, assignments := attributes ++ [stamp], filter := g.filter.block }
  return (draft.bake g.settings.style, g.definition.stampModified now entity)

/-- The deletion of the rows the filter admits. -/
def delete (g : EntityGateway E) : Query :=
  (Delete.assemble { table := g.table, filter := g.filter.block }).bake g.settings.style

/-- The counts of the joins. -/
def joinCounts (g : EntityGateway E) : JoinCounts := .of g.joins

/-- The gateway after a change, or the reason why it is refused. -/
def change (g : EntityGateway E) : GatewayChange → Except QueryError (EntityGateway E)
  | .filter step => (g.filter.step step).map fun filter => { g with filter }
  | .nest aliasName steps =>
    (Filter.build aliasName steps).map fun other => { g with filter := g.filter.addGroup other }
  | .join join => .ok { g with joins := g.joins ++ [join] }
  | .orderBy column order => (g.ordering.add column order).map fun ordering => { g with ordering }
  | .clearOrdering => .ok { g with ordering := g.ordering.clear }
  | .clearFilter => .ok { g with filter := g.filter.clear }
  | .setFilter filter => .ok { g with filter }
  | .setOrdering ordering => .ok { g with ordering }

end EntityGateway

end BoundSql
