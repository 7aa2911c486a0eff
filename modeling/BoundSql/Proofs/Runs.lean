import BoundSql.Gateway.Composite
import BoundSql.Proofs.Reachable

/-!
# Runs

What a program does: it keeps filters, gateways and composites, changes them one request
after the other, and asks for statements. The tables of a program are fixed, and requests
refer to tables, filters and gateways by number. A request that is refused leaves
everything as it was; so does a request about something that does not exist.
-/

namespace BoundSql

/-- Where a gateway stands. -/
inductive Place where
  /-- A gateway of its own. -/
  | single (number : Nat)
  /-- The base of a composite: its driving table, and its own filter, ordering and joins. -/
  | base (composite : Nat)
  /-- A member of a composite. -/
  | member (composite number : Nat)
deriving DecidableEq, Repr

/-- Where a filter stands. -/
inductive FilterPlace where
  /-- A filter of its own. -/
  | free (number : Nat)
  /-- The filter a gateway keeps. -/
  | kept (place : Place)
deriving DecidableEq, Repr

/-- What a selection is asked from. -/
inductive Source where
  /-- A gateway. -/
  | gateway (place : Place)
  /-- A composite. -/
  | composite (number : Nat)
deriving DecidableEq, Repr

/-- A request that supplies no value. -/
inductive PlainRequest where
  /-- A new filter of an alias. -/
  | newFilter (aliasName : String)
  /-- A new gateway of a table. -/
  | newGateway (table : Nat) (aliasName : String) (settings : Settings)
  /-- A new composite of a driving table and members, each with its alias. -/
  | newComposite (base : Nat × String) (members : List (Nat × String)) (settings : Settings)
  /-- Requests the combinator of the next part of a filter. -/
  | combinator (target : FilterPlace) (combinator : Combinator)
  /-- Nests one filter into another. -/
  | group (target source : FilterPlace)
  /-- Clears a filter. -/
  | clearFilter (target : FilterPlace)
  /-- Puts a copy of one filter in the place of another. -/
  | setFilter (target source : FilterPlace)
  /-- Adds a column to an ordering. -/
  | orderBy (target : Place) (column : String) (order : SortOrder)
  /-- Clears an ordering. -/
  | clearOrdering (target : Place)
  /-- Puts a new ordering of an alias in the place of an ordering. -/
  | newOrdering (target : Place) (aliasName : String)
  /-- Sets how the filters of a composite are combined. -/
  | combination (composite : Nat) (combination : Combination)
  /-- Clears all filters of a composite. -/
  | clearFilters (composite : Nat)
  /-- The selection by the kept filters. -/
  | get (source : Source) (excluded : List String)
  /-- The deletion by the kept filter. -/
  | delete (target : Place)
deriving DecidableEq, Repr

/-- A request. -/
inductive Request (E : Type) where
  /-- A request without values. -/
  | plain (request : PlainRequest)
  /-- Adds a condition to a filter. -/
  | condition (target : FilterPlace) (column : String) (comparison : Comparison) (operand : Operand)
  /-- Builds a condition for a join and adds the join. -/
  | join (target : Place) (table aliasName : String) (condition : BlockPlan) (kind : JoinKind)
    (cardinality : Cardinality)
  /-- The selection by identity. -/
  | getById (source : Source) (id : Value) (excluded : List String)
  /-- The insertion of an entity at a time. -/
  | insert (target : Place) (now : Instant) (entity : E)
  /-- The update to an entity at a time. -/
  | update (target : Place) (now : Instant) (entity : E)

/-- What a program keeps. -/
structure World (E : Type) where
  /-- The filters of their own. -/
  filters : List Filter := []
  /-- The gateways of their own. -/
  gateways : List (EntityGateway E) := []
  /-- The composites. -/
  composites : List (CompositeGateway E) := []

/-- What a request comes to: the events on the way, and a statement if one was asked for. -/
abbrev Answer := Reply (Option Query)

/-- The answer of a selection or a write; nothing if it was asked from something that does
not exist. -/
def Answer.ofReply? : Option (Reply Query) → Answer
  | none => ⟨[], .ok none⟩
  | some reply => ⟨reply.events, reply.result.map some⟩

/-- Changes the item with a number, if there is one. -/
def changeAt {α : Type} (change : α → Except QueryError α) :
    List α → Nat → Except QueryError (List α)
  | [], _ => .ok []
  | item :: rest, 0 => (change item).map (· :: rest)
  | item :: rest, number + 1 => (changeAt change rest number).map (item :: ·)

namespace World

variable {E : Type}

/-- The gateway at a place. -/
def gateway? (w : World E) : Place → Option (EntityGateway E)
  | .single number => w.gateways[number]?
  | .base composite => w.composites[composite]?.map (·.base)
  | .member composite number => w.composites[composite]?.bind (·.members[number]?)

/-- The filter at a place. -/
def filter? (w : World E) : FilterPlace → Option Filter
  | .free number => w.filters[number]?
  | .kept place => (w.gateway? place).map (·.filter)

/-- Changes the composite with a number. -/
def changeComposite (w : World E) (composite : Nat)
    (change : CompositeGateway E → Except QueryError (CompositeGateway E)) :
    Except QueryError (World E) :=
  (changeAt change w.composites composite).map fun composites => { w with composites }

/-- Changes what the gateway at a place keeps. -/
def changeGateway (w : World E) (place : Place) (change : GatewayChange) :
    Except QueryError (World E) :=
  match place with
  | .single number =>
    (changeAt (·.change change) w.gateways number).map fun gateways => { w with gateways }
  | .base composite => w.changeComposite composite (·.change change)
  | .member composite number =>
    w.changeComposite composite fun c =>
      (changeAt (·.change change) c.members number).map fun members => { c with members }

/-- Takes a step of the filter at a place. -/
def stepFilter (w : World E) (place : FilterPlace) (step : FilterStep) :
    Except QueryError (World E) :=
  match place with
  | .free number => (changeAt (·.step step) w.filters number).map fun filters => { w with filters }
  | .kept place => w.changeGateway place (.filter step)

/-- Puts a filter in the place of another. -/
def replaceFilter (w : World E) (place : FilterPlace) (filter : Filter) :
    Except QueryError (World E) :=
  match place with
  | .free number =>
    (changeAt (fun _ => .ok filter) w.filters number).map fun filters => { w with filters }
  | .kept place => w.changeGateway place (.setFilter filter)

/-- The world after a change, which stays as it is if the change is refused. -/
def attempt (w : World E) (changed : Except QueryError (World E)) : World E × Answer :=
  match changed with
  | .ok next => (next, ⟨[], .ok none⟩)
  | .error cause => (w, ⟨[], .error cause⟩)

/-- A new gateway of the table with a number, if there is such a table. -/
def openGateway (tables : List (TableDefinition E)) (settings : Settings) (table : Nat × String) :
    Except QueryError (List (EntityGateway E)) :=
  match tables[table.1]? with
  | none => .ok []
  | some definition => (EntityGateway.makeAs definition table.2 settings).map ([·])

/-- The composites of the given bases and members; there is one base at most. -/
def composed (bases members : List (EntityGateway E)) : List (CompositeGateway E) :=
  bases.map fun base => { base, members, combination := {} }

/-- The selection by the kept filters. -/
def get (w : World E) (excluded : List String) : Source → Answer
  | .gateway place => .ofReply? ((w.gateway? place).map (·.get excluded))
  | .composite number => .ofReply? (w.composites[number]?.map (·.get excluded))

/-- The selection by identity. -/
def getById (w : World E) (id : Value) (excluded : List String) : Source → Answer
  | .gateway place => .ofReply? ((w.gateway? place).map (·.getById id excluded))
  | .composite number => .ofReply? (w.composites[number]?.map (·.getById id excluded))

/-- A write through the gateway at a place. -/
def write (w : World E) (place : Place)
    (statement : EntityGateway E → Except QueryError Query) : Answer :=
  .ofReply? ((w.gateway? place).map fun g => ⟨[], statement g⟩)

/-- The world after a request without values, and the answer. -/
def perform (tables : List (TableDefinition E)) (w : World E) : PlainRequest → World E × Answer
  | .newFilter aliasName =>
    w.attempt ((Filter.make aliasName).map fun filter =>
      { w with filters := w.filters ++ [filter] })
  | .newGateway table aliasName settings =>
    w.attempt ((openGateway tables settings (table, aliasName)).map fun opened =>
      { w with gateways := w.gateways ++ opened })
  | .newComposite base members settings =>
    w.attempt do
      let bases ← openGateway tables settings base
      let opened ← members.mapM (openGateway tables settings)
      return { w with composites := w.composites ++ composed bases opened.flatten }
  | .combinator target combinator => w.attempt (w.stepFilter target (.combinator combinator))
  | .group target source =>
    match w.filter? source with
    | none => (w, .ofReply? none)
    | some other => w.attempt (w.stepFilter target (.group other))
  | .clearFilter target => w.attempt (w.stepFilter target .clear)
  | .setFilter target source =>
    match w.filter? source with
    | none => (w, .ofReply? none)
    | some other => w.attempt (w.replaceFilter target other)
  | .orderBy target column order => w.attempt (w.changeGateway target (.orderBy column order))
  | .clearOrdering target => w.attempt (w.changeGateway target .clearOrdering)
  | .newOrdering target aliasName =>
    w.attempt do
      let ordering ← OrderBy.make aliasName
      w.changeGateway target (.setOrdering ordering)
  | .combination composite combination =>
    w.attempt (w.changeComposite composite fun c => .ok { c with combination })
  | .clearFilters composite => w.attempt (w.changeComposite composite (.ok ·.clearFilters))
  | .get source excluded => (w, w.get excluded source)
  | .delete target => (w, w.write target (.ok ·.delete))

/-- The world after a request, and the answer. -/
def step (tables : List (TableDefinition E)) (w : World E) : Request E → World E × Answer
  | .plain request => w.perform tables request
  | .condition target column comparison operand =>
    w.attempt (w.stepFilter target (.condition column comparison operand))
  | .join target table aliasName condition kind cardinality =>
    w.attempt do
      let block ← condition.build
      let join ← Join.make table aliasName block kind cardinality
      w.changeGateway target (.join join)
  | .getById source id excluded => (w, w.getById id excluded source)
  | .insert target now entity => (w, w.write target fun g => (g.insert now entity).map Prod.fst)
  | .update target now entity => (w, w.write target fun g => (g.update now entity).map Prod.fst)

/-- The answers to requests made one after the other. -/
def run (tables : List (TableDefinition E)) (w : World E) : List (Request E) → List Answer
  | [] => []
  | request :: rest => (w.step tables request).2 :: run tables (w.step tables request).1 rest

end World

mutual

/-- The values a plan of a part supplies. -/
def PartPlan.values : PartPlan → List Value
  | .condition _ _ _ operand => operand.values
  | .group block => block.values
  | .text _ => []

/-- The values a plan of a block supplies. -/
def BlockPlan.values : BlockPlan → List Value
  | .empty => []
  | .push block _ part => block.values ++ part.values
  | .ofParts row => row.values
  | .addCondition block _ _ _ _ operand => block.values ++ operand.values
  | .addGroup block _ group => block.values ++ group.values
  | .addText block _ => block.values

/-- The values a plan of a row supplies. -/
def RowPlan.values : RowPlan → List Value
  | .nil => []
  | .cons _ part rest => part.values ++ rest.values

end

/-- The values an entity has for the columns of the tables. -/
def entityValues {E : Type} (tables : List (TableDefinition E)) (entity : E) : List Value :=
  (tables.flatMap (·.writable)).filterMap fun column => column.read entity

namespace Request

variable {E : Type}

/-- The values a request supplies: those of its operand, of its condition or of its entity,
an identity, and the time it is made at. -/
def values (tables : List (TableDefinition E)) : Request E → List Value
  | .plain _ => []
  | .condition _ _ _ operand => operand.values
  | .join _ _ _ plan _ _ => plan.values
  | .getById _ id _ => [id]
  | .insert _ now entity => entityValues tables entity ++ [.instant now]
  | .update _ now entity => entityValues tables entity ++ [.instant now]

/-- The values a run is supplied with, in order. -/
def supplied (tables : List (TableDefinition E)) (requests : List (Request E)) : List Value :=
  requests.flatMap (values tables)

end Request

end BoundSql
