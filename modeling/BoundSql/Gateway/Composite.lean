import BoundSql.Gateway.Entity

/-!
# Composite gateways

Selections over a driving table and its joined members. The filters of the members can
take part beside the composite's own: several filters are nested side by side, so that
the combinators inside one do not regroup with those of another.
-/

namespace BoundSql

/-- How the filters of the members take part. -/
structure Combination where
  /-- What links the filters. -/
  combinator : Combinator := default
  /-- Whether the filters of the members take part at all. -/
  automatic : Bool := true
deriving DecidableEq, Repr

/-- Selections over several tables. The base keeps the driving table and the composite's
own filter, ordering and joins. -/
structure CompositeGateway (E : Type) where
  /-- The driving table, and the composite's own filter, ordering and joins. -/
  base : EntityGateway E
  /-- The members, in the order in which they take part. -/
  members : List (EntityGateway E)
  /-- How the filters of the members take part. -/
  combination : Combination

namespace CompositeGateway

variable {E : Type}

/-- The filters that take part: those of the members, then the composite's own, without
the empty ones. -/
def filters (c : CompositeGateway E) : List Filter :=
  let members := if c.combination.automatic then c.members.map (·.filter) else []
  (members ++ [c.base.filter]).filter (!·.isEmpty)

/-- One filter for several: a single one as it is, and several nested one after the other
into a filter of the given alias. -/
def combine (aliasName : TableName) (combinator : Combinator) :
    List Filter → Except QueryError Filter
  | [] => .ok (.empty aliasName)
  | [single] => .ok single
  | first :: others =>
    others.foldlM
      (fun combined other => (combined.addCombinator combinator).map (·.addGroup other))
      ((Filter.empty aliasName).addGroup first)

/-- The filter a selection uses. -/
def combinedFilter (c : CompositeGateway E) : Except QueryError Filter :=
  combine c.base.table.aliasName c.combination.combinator c.filters

/-- The columns a selection returns: those of the base, then those of the members. -/
def projection (c : CompositeGateway E) (excluded : List String) :
    Except QueryError Projection := do
  let tables ← (c.base :: c.members).mapM (·.projection excluded)
  return tables.flatten

/-- The orderings of a selection: the composite's own, then those of the members. -/
def orderings (c : CompositeGateway E) : List OrderBy :=
  c.base.ordering :: c.members.map (·.ordering)

/-- The selection of columns with a filter. -/
def select (c : CompositeGateway E) (columns : Projection) (filter : Filter) : Select :=
  { table := c.base.table, columns, joins := c.base.joins, filter := filter.block
    orderings := c.orderings }

/-- The rows the combined filter admits. -/
def get (c : CompositeGateway E) (excluded : List String) : Reply Query :=
  Reply.ofSelect c.base.settings do
    let columns ← c.projection excluded
    let filter ← c.combinedFilter
    return c.select columns filter

/-- The driving row with the given identity. No kept filter takes part. -/
def getById (c : CompositeGateway E) (id : Value) (excluded : List String) : Reply Query :=
  Reply.ofSelect c.base.settings do
    let columns ← c.projection excluded
    let identity ← (Filter.empty c.base.table.aliasName).step (.equal "id" id)
    return c.select columns identity

/-- The composite after a change of its own filter, ordering or joins. -/
def change (c : CompositeGateway E) (change : GatewayChange) :
    Except QueryError (CompositeGateway E) :=
  (c.base.change change).map fun base => { c with base }

/-- The composite with its own filter and those of all members cleared. -/
def clearFilters (c : CompositeGateway E) : CompositeGateway E :=
  { c with
    base := { c.base with filter := c.base.filter.clear }
    members := c.members.map fun member => { member with filter := member.filter.clear } }

/-- The counts of the joins. -/
def joinCounts (c : CompositeGateway E) : JoinCounts := c.base.joinCounts

end CompositeGateway

end BoundSql
