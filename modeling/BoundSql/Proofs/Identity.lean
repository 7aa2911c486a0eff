import BoundSql.Proofs.Meaning
import BoundSql.Proofs.ResultNames

/-!
# Selections by identity

A selection by identity is the selection of a gateway, or of a composite, whose filters were
cleared and then given the one condition that the column `id` equals the identity
(`getById_eq_get`). Whatever filters, requested combinators and settings there were before, the
statement or the refusal is the same, and so are the events.

Clearing a filter leaves its alias, while a selection by identity goes by the alias of the table. So
the filter has to stand on that alias, which it does until one of another alias is put in its place
(`EntityGateway.own_of_changes`).

What composites are is left open here: a kind of composites tells how its state is viewed, how its
own filter is replaced and how the other filters are changed. The composites of a driving table and
members are one such kind. Where filters do not stand apart from each other and from what else a
composite shows, a change of its own filter changes more than that, and the two selections differ
(`getById_ne_get`).
-/

namespace BoundSql

open Outcome

/-- The text `id` breaks no rule for columns. -/
theorem columnFault?_id : columnFault? "id" = none := by decide

/-- The condition that the column `id` of an alias equals an identity. -/
def Condition.ofIdentity (aliasName : TableName) (id : Value) : Condition :=
  ⟨some aliasName, ⟨"id", columnFault?_id⟩, .equal, .single id, rfl, nofun⟩

namespace Filter

/-- The filter of an alias by that condition alone. -/
def ofIdentity (aliasName : TableName) (id : Value) : Filter :=
  (empty aliasName).extend (.condition (.ofIdentity aliasName id))

/-- A filter without parts accepts the condition. -/
theorem step_ofIdentity (aliasName : TableName) (id : Value) :
    (empty aliasName).step (.equal "id" id) = .ok (ofIdentity aliasName id) :=
  step_eq_ok_iff.2 (.condition (Condition.ofIdentity aliasName id).make_parts)

/-- Then it has a part. -/
theorem isEmpty_ofIdentity (aliasName : TableName) (id : Value) :
    (ofIdentity aliasName id).isEmpty = false := by
  rw [← Bool.not_eq_true, isEmpty_iff]
  exact Block.append_ne_empty _ _ _

end Filter

namespace EntityGateway

variable {E : Type}

/-- Once it is cleared and given the condition, the filter of a gateway is that of an identity, on
the alias it stands on. -/
theorem ask_eq_ok (g : EntityGateway E) (id : Value) :
    [.clearFilter, .filter (.equal "id" id)].foldlM change g =
      .ok { g with filter := .ofIdentity g.filter.aliasName id } := by
  have cleared : g.change .clearFilter = .ok { g with filter := .empty g.filter.aliasName } := rfl
  have stepped : change { g with filter := .empty g.filter.aliasName } (.filter (.equal "id" id)) =
      .ok { g with filter := .ofIdentity g.filter.aliasName id } :=
    map_eq_ok.2 ⟨_, Filter.step_ofIdentity g.filter.aliasName id, rfl⟩
  simp only [List.foldlM_cons, List.foldlM_nil, cleared, stepped, bind, Except.bind]
  rfl

/-- A gateway selects by identity as it selects once its filter is that of the identity. -/
theorem getById_eq_get_ofIdentity (g : EntityGateway E) (id : Value) (excluded : List String) :
    g.getById id excluded =
      { g with filter := .ofIdentity g.table.aliasName id }.get excluded := by
  rw [getById, Filter.step_ofIdentity]
  rfl

/-- Changes that put no filter of another alias in its place leave a filter on its alias. -/
theorem own_of_changes {changes : List GatewayChange} {g next : EntityGateway E}
    (own : g.filter.aliasName = g.table.aliasName)
    (kept : ∀ filter, .setFilter filter ∈ changes → filter.aliasName = g.table.aliasName)
    (changed : changes.foldlM change g = .ok next) :
    next.filter.aliasName = next.table.aliasName := by
  induction changes generalizing g with
  | nil =>
    cases changed
    exact own
  | cons first rest ih =>
    rw [List.foldlM_cons] at changed
    obtain ⟨between, accepted, changed⟩ := bind_eq_ok.1 changed
    have stays := (table_change accepted).2
    have still : between.filter.aliasName = between.table.aliasName := by
      refine alias_change own (fun filter same => kept filter ?_) accepted
      rw [same]
      exact List.mem_cons_self
    refine ih still (fun filter member => ?_) changed
    rw [stays]
    exact kept filter (List.mem_cons_of_mem first member)

end EntityGateway

/-- What a composite shows of itself. -/
structure CompositeView where
  /-- The driving table. -/
  table : TableRef
  /-- The settings of the selections. -/
  settings : Settings
  /-- How the other filters take part. -/
  combination : Combination
  /-- The composite's own filter. -/
  filter : Filter
  /-- The other filters, in the order in which they take part. -/
  others : List Filter
  /-- The composite's own ordering. -/
  ordering : OrderBy
  /-- The other orderings. -/
  otherOrderings : List OrderBy
  /-- The joins. -/
  joins : List Join
  /-- The columns that are returned if some names are excluded. -/
  projection : List String → Except QueryError Projection

namespace CompositeView

/-- The filter a selection uses. -/
def combinedFilter (v : CompositeView) : Except QueryError Filter :=
  let others := if v.combination.automatic then v.others else []
  CompositeGateway.combine v.table.aliasName v.combination.combinator
    ((others ++ [v.filter]).filter (!·.isEmpty))

/-- The selection of columns with a filter. -/
def select (v : CompositeView) (columns : Projection) (filter : Filter) : Select :=
  { table := v.table, columns, joins := v.joins, filter := filter.block
    orderings := v.ordering :: v.otherOrderings }

/-- The rows the combined filter admits. -/
def get (v : CompositeView) (excluded : List String) : Reply Query :=
  Reply.ofSelect v.settings do
    let columns ← v.projection excluded
    let filter ← v.combinedFilter
    return v.select columns filter

/-- The driving row with the given identity. -/
def getById (v : CompositeView) (id : Value) (excluded : List String) : Reply Query :=
  Reply.ofSelect v.settings do
    let columns ← v.projection excluded
    let identity ← (Filter.empty v.table.aliasName).step (.equal "id" id)
    return v.select columns identity

/-- The view without its filters, and without how they take part. -/
def bare (v : CompositeView) : CompositeView :=
  { v with filter := .empty v.table.aliasName, others := [], combination := {} }

/-- The rows a given filter admits. -/
def getBy (v : CompositeView) (filter : Filter) (excluded : List String) : Reply Query :=
  Reply.ofSelect v.settings do
    let columns ← v.projection excluded
    return v.select columns filter

/-- The filters of a view take no part in a selection by a given one. -/
theorem getBy_bare (v : CompositeView) : v.bare.getBy = v.getBy := rfl

/-- A selection by identity is one by the filter of the identity. -/
theorem getById_eq_getBy (v : CompositeView) (id : Value) (excluded : List String) :
    v.getById id excluded = v.getBy (.ofIdentity v.table.aliasName id) excluded := by
  rw [getById, Filter.step_ofIdentity]
  rfl

/-- Where all other filters are empty, a selection is one by the own filter, if that has parts. -/
theorem get_eq_getBy {v : CompositeView} (vacant : ∀ other ∈ v.others, other.isEmpty = true)
    (present : v.filter.isEmpty = false) (excluded : List String) :
    v.get excluded = v.getBy v.filter excluded := by
  have none : v.others.filter (!·.isEmpty) = [] :=
    List.filter_eq_nil_iff.2 fun other member => by simp [vacant other member]
  have taking : ((if v.combination.automatic then v.others else []) ++ [v.filter]).filter
      (!·.isEmpty) = [v.filter] := by
    split <;> simp [none, present]
  have used : v.combinedFilter = .ok v.filter := by
    rw [combinedFilter, taking]
    rfl
  rw [get, used]
  rfl

end CompositeView

/-- A kind of composites: what is viewed of a state, and how its filters are changed. -/
structure CompositeKind (State : Type) where
  /-- What a composite shows. -/
  view : State → CompositeView
  /-- The composite with another filter of its own. -/
  setFilter : Filter → State → State
  /-- The composite with each of the other filters changed. -/
  mapOthers : (Filter → Filter) → State → State

namespace CompositeKind

variable {State : Type}

/-- The filters that can be changed are those that are viewed. -/
structure Consistent (kind : CompositeKind State) : Prop where
  /-- The own filter that is set is viewed. -/
  filter_setFilter (filter : Filter) (s : State) :
    (kind.view (kind.setFilter filter s)).filter = filter
  /-- Exactly the other filters that are viewed are changed. -/
  others_mapOthers (change : Filter → Filter) (s : State) :
    (kind.view (kind.mapOthers change s)).others = (kind.view s).others.map change

/-- Filters stand apart from each other, and from all else that is viewed. -/
structure Apart (kind : CompositeKind State) : Prop where
  /-- No other filter changes with the own one. -/
  others_setFilter (filter : Filter) (s : State) :
    (kind.view (kind.setFilter filter s)).others = (kind.view s).others
  /-- The own filter does not change with the others. -/
  filter_mapOthers (change : Filter → Filter) (s : State) :
    (kind.view (kind.mapOthers change s)).filter = (kind.view s).filter
  /-- The rest does not change with the own filter. -/
  bare_setFilter (filter : Filter) (s : State) :
    (kind.view (kind.setFilter filter s)).bare = (kind.view s).bare
  /-- The rest does not change with the others. -/
  bare_mapOthers (change : Filter → Filter) (s : State) :
    (kind.view (kind.mapOthers change s)).bare = (kind.view s).bare

variable {kind : CompositeKind State}

/-- The composite with its own filter and all others cleared. -/
def clearFilters (kind : CompositeKind State) (s : State) : State :=
  kind.mapOthers Filter.clear (kind.setFilter (kind.view s).filter.clear s)

/-- The composite after a step of its own filter. -/
def stepFilter (kind : CompositeKind State) (s : State) (step : FilterStep) :
    Except QueryError State :=
  ((kind.view s).filter.step step).map fun filter => kind.setFilter filter s

/-- Clearing all filters leaves an empty one of its alias in the place of the own one. -/
theorem filter_clearFilters (consistent : kind.Consistent) (apart : kind.Apart) (s : State) :
    (kind.view (kind.clearFilters s)).filter = (kind.view s).filter.clear := by
  rw [clearFilters, apart.filter_mapOthers, consistent.filter_setFilter]

/-- It leaves no other filter with parts. -/
theorem vacant_clearFilters (consistent : kind.Consistent) (s : State) :
    ∀ other ∈ (kind.view (kind.clearFilters s)).others, other.isEmpty = true := by
  intro other member
  rw [clearFilters, consistent.others_mapOthers] at member
  obtain ⟨before, _, rfl⟩ := List.mem_map.1 member
  rfl

/-- It changes nothing but filters. -/
theorem bare_clearFilters (apart : kind.Apart) (s : State) :
    (kind.view (kind.clearFilters s)).bare = (kind.view s).bare := by
  rw [clearFilters, apart.bare_mapOthers, apart.bare_setFilter]

/-- A composite selects by identity as it selects once its own filter is the condition on it and
the others are empty. -/
theorem exists_identity (consistent : kind.Consistent) (apart : kind.Apart) {s : State}
    (own : (kind.view s).filter.aliasName = (kind.view s).table.aliasName) (id : Value)
    (excluded : List String) :
    ∃ asked, kind.stepFilter (kind.clearFilters s) (.equal "id" id) = .ok asked ∧
      (kind.view s).getById id excluded = (kind.view asked).get excluded := by
  let identity := Filter.ofIdentity (kind.view s).table.aliasName id
  let asked := kind.setFilter identity (kind.clearFilters s)
  have shown : (kind.view asked).filter = identity := consistent.filter_setFilter identity _
  have present : (kind.view asked).filter.isEmpty = false := by
    rw [shown]
    exact Filter.isEmpty_ofIdentity _ id
  have vacant : ∀ other ∈ (kind.view asked).others, other.isEmpty = true := by
    rw [apart.others_setFilter]
    exact vacant_clearFilters consistent s
  have framed : (kind.view asked).bare = (kind.view s).bare := by
    rw [apart.bare_setFilter, bare_clearFilters apart]
  refine ⟨asked, map_eq_ok.2 ⟨identity, ?_, rfl⟩, ?_⟩
  · rw [filter_clearFilters consistent apart, Filter.clear, own]
    exact Filter.step_ofIdentity _ id
  · calc (kind.view s).getById id excluded
        = (kind.view s).getBy identity excluded := CompositeView.getById_eq_getBy _ id excluded
      _ = (kind.view s).bare.getBy identity excluded := by rw [CompositeView.getBy_bare]
      _ = (kind.view asked).getBy identity excluded := by rw [← framed, CompositeView.getBy_bare]
      _ = (kind.view asked).get excluded := by
        rw [CompositeView.get_eq_getBy vacant present, shown]

end CompositeKind

namespace CompositeGateway

variable {E : Type}

/-- The composites of a driving table and members: the other filters and orderings are those of the
members. -/
def kind : CompositeKind (CompositeGateway E) where
  view c :=
    { table := c.base.table, settings := c.base.settings, combination := c.combination
      filter := c.base.filter, others := c.members.map (·.filter), ordering := c.base.ordering
      otherOrderings := c.members.map (·.ordering), joins := c.base.joins
      projection := c.projection }
  setFilter filter c := { c with base := { c.base with filter } }
  mapOthers change c :=
    { c with members := c.members.map fun member => { member with filter := change member.filter } }

/-- The filters of the members are changed. -/
theorem consistent_kind : (kind (E := E)).Consistent where
  filter_setFilter filter c := rfl
  others_mapOthers change c := by
    simp only [kind, List.map_map]
    rfl

/-- Each member keeps its filter for itself. -/
theorem apart_kind : (kind (E := E)).Apart where
  others_setFilter filter c := rfl
  filter_mapOthers change c := rfl
  bare_setFilter filter c := rfl
  bare_mapOthers change c := by
    -- the columns are those of the tables, whatever filters the members keep
    have columns : projection { c with members := c.members.map fun member =>
        { member with filter := change member.filter } } = c.projection := by
      funext excluded
      rw [projection_eq_ofTables, projection_eq_ofTables, List.map_cons, List.map_map]
      rfl
    simp only [kind, CompositeView.bare, columns, List.map_map]
    rfl

/-- The rows of the view are those of the composite. -/
theorem view_get (c : CompositeGateway E) (excluded : List String) :
    (kind.view c).get excluded = c.get excluded := rfl

/-- The row of the view with an identity is that of the composite. -/
theorem view_getById (c : CompositeGateway E) (id : Value) (excluded : List String) :
    (kind.view c).getById id excluded = c.getById id excluded := rfl

/-- The filters are cleared as the kind says. -/
theorem kind_clearFilters (c : CompositeGateway E) : kind.clearFilters c = c.clearFilters := rfl

/-- A step of the own filter is taken as the kind says. -/
theorem kind_stepFilter (c : CompositeGateway E) (step : FilterStep) :
    kind.stepFilter c step = c.change (.filter step) := by
  change Except.map _ (c.base.filter.step step) =
    Except.map _ (Except.map _ (c.base.filter.step step))
  cases c.base.filter.step step <;> rfl

end CompositeGateway

/-- A selection by identity is the selection of the same gateway or composite once all its filters
are cleared and its own one is given the condition on the identity: with the same result, be it a
statement or a refusal, and the same events. The own filter has to stand on the alias of the table,
as that of a gateway does until one of another alias is put in its place; and the filters of a
composite have to stand apart from each other and from what else it shows. -/
theorem getById_eq_get {E State : Type} (id : Value) (excluded : List String) :
    (∀ g : EntityGateway E, g.filter.aliasName = g.table.aliasName →
      ∃ asked, [.clearFilter, .filter (.equal "id" id)].foldlM EntityGateway.change g = .ok asked ∧
        g.getById id excluded = asked.get excluded) ∧
    (∀ (definition : TableDefinition E) (aliasName : String) (settings : Settings)
      (g next : EntityGateway E) (changes : List GatewayChange),
      EntityGateway.makeAs definition aliasName settings = .ok g →
      changes.foldlM EntityGateway.change g = .ok next →
      (∀ filter, .setFilter filter ∈ changes → filter.aliasName = g.table.aliasName) →
        next.filter.aliasName = next.table.aliasName) ∧
    (∀ kind : CompositeKind State, kind.Consistent → kind.Apart → ∀ s : State,
      (kind.view s).filter.aliasName = (kind.view s).table.aliasName →
        ∃ asked, kind.stepFilter (kind.clearFilters s) (.equal "id" id) = .ok asked ∧
          (kind.view s).getById id excluded = (kind.view asked).get excluded) ∧
    (∀ c : CompositeGateway E, c.base.filter.aliasName = c.base.table.aliasName →
      ∃ asked, c.clearFilters.change (.filter (.equal "id" id)) = .ok asked ∧
        c.getById id excluded = asked.get excluded) := by
  refine ⟨fun g own => ?_, ?_, fun kind consistent apart s own => ?_, fun c own => ?_⟩
  · refine ⟨_, g.ask_eq_ok id, ?_⟩
    rw [own]
    exact g.getById_eq_get_ofIdentity id excluded
  · intro definition aliasName settings g next changes made changed kept
    exact EntityGateway.own_of_changes (EntityGateway.named_makeAs made).2 kept changed
  · exact CompositeKind.exists_identity consistent apart own id excluded
  · obtain ⟨asked, accepted, same⟩ := CompositeKind.exists_identity
      CompositeGateway.consistent_kind CompositeGateway.apart_kind (s := c) own id excluded
    rw [CompositeGateway.kind_clearFilters, CompositeGateway.kind_stepFilter] at accepted
    rw [CompositeGateway.view_getById, CompositeGateway.view_get] at same
    exact ⟨asked, accepted, same⟩

namespace Sample

/-- Users by `u.id IN (1, 2)`, with OR requested for what comes next. -/
def hesitant : EntityGateway Unit :=
  { keeper users .empty with
    filter := ⟨users.aliasName, Block.empty.addCondition none listed, some .or⟩ }

/-- A new filter of the alias is put in place, and takes two steps. -/
def rearrangement : List GatewayChange :=
  [.setFilter (.empty users.aliasName), .filter (.among "id" [.integer 1, .integer 2]),
    .filter (.combinator .or)]

/-- A new gateway of users. -/
theorem makeAs_users :
    EntityGateway.makeAs (keeper users .empty).definition users.aliasName.text default =
      .ok (keeper users .empty) :=
  map_eq_ok.2 ⟨users, users.make_names, rfl⟩

/-- The gateway comes about by the changes. -/
theorem changed_hesitant :
    rearrangement.foldlM EntityGateway.change (keeper users .empty) = .ok hesitant := by
  have conditioned : (keeper users .empty).change
      (.filter (.among "id" [.integer 1, .integer 2])) =
      .ok (keeper users (Block.empty.addCondition none listed)) :=
    map_eq_ok.2 ⟨_, map_eq_ok.2 ⟨listed, listed.make_parts, rfl⟩, rfl⟩
  have replaced : (keeper users .empty).change (.setFilter (.empty users.aliasName)) =
      .ok (keeper users .empty) := rfl
  simp only [rearrangement, List.foldlM_cons, List.foldlM_nil, replaced, conditioned, bind,
    Except.bind]
  rfl

end Sample

/-- Neither the requested OR nor the filters of the members show in a selection by identity. -/
theorem getById_eq_get_ranked :
    (Sample.hesitant.filter.aliasName = Sample.hesitant.table.aliasName ∧
      ∃ asked, [.clearFilter, .filter (.equal "id" (.integer 7))].foldlM EntityGateway.change
          Sample.hesitant = .ok asked ∧
        Sample.hesitant.getById (.integer 7) ["created_at"] = asked.get ["created_at"]) ∧
    (Sample.ranked.base.filter.aliasName = Sample.ranked.base.table.aliasName ∧
      ∃ asked, CompositeGateway.kind.stepFilter (CompositeGateway.kind.clearFilters Sample.ranked)
          (.equal "id" (.integer 7)) = .ok asked ∧
        (CompositeGateway.kind.view Sample.ranked).getById (.integer 7) ["created_at"] =
          (CompositeGateway.kind.view asked).get ["created_at"]) ∧
    ∃ asked, Sample.ranked.clearFilters.change (.filter (.equal "id" (.integer 7))) = .ok asked ∧
      Sample.ranked.getById (.integer 7) ["created_at"] = asked.get ["created_at"] := by
  obtain ⟨single, stays, viewed, composite⟩ :=
    @getById_eq_get Unit (CompositeGateway Unit) (.integer 7) ["created_at"]
  have own : Sample.ranked.base.filter.aliasName = Sample.ranked.base.table.aliasName := rfl
  have kept : ∀ filter, .setFilter filter ∈ Sample.rearrangement →
      filter.aliasName = Sample.users.aliasName := by
    intro filter member
    simp only [Sample.rearrangement, List.mem_cons, GatewayChange.setFilter.injEq, reduceCtorEq,
      List.not_mem_nil, or_false] at member
    rw [member]
    rfl
  have still := stays _ _ _ _ _ _ Sample.makeAs_users Sample.changed_hesitant kept
  exact ⟨⟨still, single _ still⟩,
    ⟨own, viewed CompositeGateway.kind CompositeGateway.consistent_kind
      CompositeGateway.apart_kind Sample.ranked own⟩, composite Sample.ranked own⟩

namespace Sample

/-- Users whose filter has been replaced by one of the alias `x`. -/
def astray : EntityGateway Unit :=
  { keeper users .empty with filter := .empty ⟨"x", by decide +kernel⟩ }

/-- It is reached by that change. -/
theorem reachable_astray : astray.Reachable := by
  have replaced : (keeper users .empty).change (.setFilter astray.filter) = .ok astray := rfl
  exact (EntityGateway.Reachable.make makeAs_users).change replaced

/-- Composites whose own filter takes part as another one, too. -/
def mirrored : CompositeKind CompositeView where
  view v := { v with others := [v.filter] }
  setFilter filter v := { v with filter }
  mapOthers change v := { v with filter := change v.filter }

/-- Composites that have joins only if their own filter has parts. -/
def selective : CompositeKind CompositeView where
  view v := { v with joins := if v.filter.isEmpty then [] else v.joins }
  setFilter filter v := { v with filter }
  mapOthers change v := { v with others := v.others.map change }

/-- Users without filters, joined to their profiles. -/
def unfiltered : CompositeView :=
  let vacant : CompositeGateway Unit :=
    { base := keeper users .empty, members := [], combination := {} }
  { CompositeGateway.kind.view vacant with joins := [profiles] }

/-- Only the identity is selected. -/
def others : List String := ["created_at", "modified_at"]

end Sample

/-- A gateway whose filter stands on another alias than its table selects by a column of that alias
once it is cleared. A composite whose own filter takes part twice selects by the condition twice,
and one that is joined only with a filter selects by identity without its joins. -/
theorem getById_ne_get :
    (Sample.astray.Reachable ∧
      ∃ asked, [.clearFilter, .filter (.equal "id" (.integer 7))].foldlM EntityGateway.change
          Sample.astray = .ok asked ∧
        (Sample.astray.getById (.integer 7) Sample.others).result.map (·.text) =
          .ok "SELECT u.id AS idu FROM users AS u WHERE (( u.id = ? ))" ∧
        (asked.get Sample.others).result.map (·.text) =
          .ok "SELECT u.id AS idu FROM users AS u WHERE (( x.id = ? ))") ∧
    ∀ kind ∈ [Sample.mirrored, Sample.selective], kind.Consistent ∧
      (kind.view Sample.unfiltered).filter.aliasName =
        (kind.view Sample.unfiltered).table.aliasName ∧
      ∃ asked, kind.stepFilter (kind.clearFilters Sample.unfiltered) (.equal "id" (.integer 7)) =
          .ok asked ∧
        (kind.view Sample.unfiltered).getById (.integer 7) Sample.others ≠
          (kind.view asked).get Sample.others := by
  refine ⟨⟨Sample.reachable_astray, _, Sample.astray.ask_eq_ok (.integer 7), by decide +kernel,
    by decide +kernel⟩, fun kind member => ?_⟩
  have differ {reply reply' : Reply Query}
      (texts : reply.result.map (·.text) ≠ reply'.result.map (·.text)) : reply ≠ reply' :=
    fun same => texts (by rw [same])
  have step := Filter.step_ofIdentity Sample.users.aliasName (.integer 7)
  rcases List.mem_pair.1 member with rfl | rfl
  · exact ⟨⟨fun _ _ => rfl, fun _ _ => rfl⟩, rfl, _, map_eq_ok.2 ⟨_, step, rfl⟩,
      differ (by decide +kernel)⟩
  · exact ⟨⟨fun _ _ => rfl, fun _ _ => rfl⟩, rfl, _, map_eq_ok.2 ⟨_, step, rfl⟩,
      differ (by decide +kernel)⟩

end BoundSql
