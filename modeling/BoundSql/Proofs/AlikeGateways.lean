import BoundSql.Gateway.Composite
import BoundSql.Proofs.AlikeDrafts

/-!
# Alike gateways

Gateways that were set up alike, and whose filters and joins differ in values only, answer
alike: the same events, the same refusals, and alike statements. This holds for every
statement of a gateway and of a composite, and every change keeps gateways alike.
-/

namespace BoundSql

variable {R : Value → Value → Prop} {E : Type} {tables : List (TableDefinition E)}

/-- Entities that have a value for the same columns of the tables, with related values. -/
def EntityAlike (tables : List (TableDefinition E)) (R : Value → Value → Prop)
    (entity entity' : E) : Prop :=
  ∀ column ∈ tables.flatMap (·.writable), Option.Rel R (column.read entity) (column.read entity')

/-- The same events, and alike outcomes. -/
structure Reply.Alike {α : Type} (related : α → α → Prop) (reply reply' : Reply α) : Prop where
  events : reply.events = reply'.events
  result : Outcome.Alike related reply.result reply'.result

/-- Alike selections are reported and answered alike: events depend on the kinds of joins. -/
theorem Select.Alike.reply {s s' : Select} (selections : s.Alike R s') (settings : Settings) :
    (s.reply settings).Alike (Query.Alike R) (s'.reply settings) := by
  constructor
  · unfold Select.reply
    rw [JoinCounts.of_alike selections.joins]
  · exact selections.assemble.map fun _ _ drafts => drafts.bake settings.style

/-- Selections that come about alike are answered alike. -/
theorem Reply.ofSelect_alike (settings : Settings) {parts parts' : Except QueryError Select}
    (outcomes : Outcome.Alike (Select.Alike R) parts parts') :
    (ofSelect settings parts).Alike (Query.Alike R) (ofSelect settings parts') := by
  cases outcomes with
  | error cause => exact ⟨rfl, .error cause⟩
  | ok selections => exact selections.reply settings

/-- Gateways of one table with the same settings and ordering, whose filters and joins differ
in values only. -/
structure EntityGateway.Alike (tables : List (TableDefinition E)) (R : Value → Value → Prop)
    (g g' : EntityGateway E) : Prop where
  known : g.definition ∈ tables
  definition : g.definition = g'.definition
  table : g.table = g'.table
  settings : g.settings = g'.settings
  filter : g.filter.Alike R g'.filter
  ordering : g.ordering = g'.ordering
  joins : List.Forall₂ (Join.Alike R) g.joins g'.joins

/-- Changes that differ in values only. -/
inductive GatewayChange.Alike (R : Value → Value → Prop) :
    GatewayChange → GatewayChange → Prop where
  | filter {step step' : FilterStep} (steps : step.Alike R step') :
    GatewayChange.Alike R (.filter step) (.filter step')
  | nest (aliasName : String) {steps steps' : List FilterStep}
    (changes : List.Forall₂ (FilterStep.Alike R) steps steps') :
    GatewayChange.Alike R (.nest aliasName steps) (.nest aliasName steps')
  | join {join join' : Join} (joined : join.Alike R join') :
    GatewayChange.Alike R (.join join) (.join join')
  | orderBy (column : String) (order : SortOrder) :
    GatewayChange.Alike R (.orderBy column order) (.orderBy column order)
  | clearOrdering : GatewayChange.Alike R .clearOrdering .clearOrdering
  | clearFilter : GatewayChange.Alike R .clearFilter .clearFilter
  | setFilter {filter filter' : Filter} (filters : filter.Alike R filter') :
    GatewayChange.Alike R (.setFilter filter) (.setFilter filter')
  | setOrdering (ordering : OrderBy) :
    GatewayChange.Alike R (.setOrdering ordering) (.setOrdering ordering)

namespace EntityGateway

variable {g g' : EntityGateway E}

/-- A new gateway is alike to itself: it has no values. -/
theorem makeAs_alike {definition : TableDefinition E} (known : definition ∈ tables)
    (aliasName : String) (settings : Settings) :
    Outcome.Alike (Alike tables R) (makeAs definition aliasName settings)
      (makeAs definition aliasName settings) := by
  apply (Outcome.Alike.refl _).map
  intro table table' same
  subst same
  exact ⟨known, rfl, rfl, rfl, Filter.alike_empty _, rfl, .nil⟩

theorem Alike.projection (gateways : g.Alike tables R g') (excluded : List String) :
    g.projection excluded = g'.projection excluded := by
  unfold EntityGateway.projection
  rw [gateways.definition, gateways.table]

/-- Selections by alike filters are answered alike. -/
theorem get_alike (gateways : g.Alike tables R g') (excluded : List String) :
    (g.get excluded).Alike (Query.Alike R) (g'.get excluded) := by
  unfold get
  rw [gateways.settings, gateways.projection, gateways.table, gateways.ordering]
  apply Reply.ofSelect_alike
  apply (Outcome.Alike.refl _).bind
  intro columns columns' same
  subst same
  exact .ok ⟨rfl, rfl, gateways.joins, gateways.filter.block, rfl⟩

/-- The condition on an identity is added alike. -/
theorem identity_alike (aliasName : TableName) {id id' : Value} (ids : R id id') :
    Outcome.Alike (Filter.Alike R) ((Filter.empty aliasName).step (.equal "id" id))
      ((Filter.empty aliasName).step (.equal "id" id')) :=
  Filter.step_alike (Filter.alike_empty aliasName) (.condition "id" .equal (.single ids))

/-- Selections of related identities are answered alike. -/
theorem getById_alike (gateways : g.Alike tables R g') {id id' : Value} (ids : R id id')
    (excluded : List String) :
    (g.getById id excluded).Alike (Query.Alike R) (g'.getById id' excluded) := by
  unfold getById
  rw [gateways.settings, gateways.projection, gateways.table, gateways.ordering]
  apply Reply.ofSelect_alike
  apply (Outcome.Alike.refl _).bind
  intro columns columns' same
  subst same
  apply (identity_alike _ ids).bind
  intro identity identity' filters
  exact .ok ⟨rfl, rfl, gateways.joins, filters.block, rfl⟩

/-- Alike entities are assigned alike: which columns are written depends on which values
there are, not on what they are. -/
theorem assignments_alike {definition : TableDefinition E} (known : definition ∈ tables)
    (qualifier : String) {entity entity' : E} (entities : EntityAlike tables R entity entity') :
    Outcome.Alike (List.Forall₂ (Assignment.Alike R)) (assignments definition qualifier entity)
      (assignments definition qualifier entity') := by
  have present : ∀ column ∈ definition.writable,
      Option.Rel R (column.read entity) (column.read entity') := fun column member =>
    entities column (List.mem_flatMap.2 ⟨definition, known, member⟩)
  have named : List.Forall₂ (fun pair pair' : String × Value => pair.1 = pair'.1 ∧ R pair.2 pair'.2)
      (definition.writable.filterMap fun column => (column.read entity).map (column.name, ·))
      (definition.writable.filterMap fun column => (column.read entity').map (column.name, ·)) :=
    Outcome.filterMap_related fun column member =>
      Outcome.map_related (present column member) fun _ _ values => ⟨rfl, values⟩
  apply Outcome.Alike.mapM named
  intro pair pair' same
  obtain ⟨column, v⟩ := pair
  obtain ⟨column', v'⟩ := pair'
  obtain ⟨rfl, values⟩ := same
  exact Assignment.make_alike column qualifier values

variable {now now' : Instant} {entity entity' : E}

/-- Insertions of alike entities, at related times, are answered alike. -/
theorem insert_alike (gateways : g.Alike tables R g') (clocks : R (.instant now) (.instant now'))
    (entities : EntityAlike tables R entity entity') :
    Outcome.Alike (Query.Alike R) ((g.insert now entity).map Prod.fst)
      ((g'.insert now' entity').map Prod.fst) := by
  have written : Outcome.Alike (fun answer answer' => answer.1.Alike R answer'.1)
      (g.insert now entity) (g'.insert now' entity') := by
    unfold insert
    rw [← gateways.definition, gateways.table, gateways.settings]
    apply (assignments_alike gateways.known _ entities).bind
    intro columns columns' lists
    apply (Assignment.make_alike _ _ clocks).bind
    intro stamp stamp' stamps
    have all := List.rel_append lists (.cons stamps .nil)
    apply (Insert.assemble_alike _ all).bind
    intro draft draft' drafts
    exact .ok (drafts.bake _)
  exact written.map fun _ _ answers => answers

/-- Updates to alike entities, at related times and by alike filters, are answered alike. -/
theorem update_alike (gateways : g.Alike tables R g') (clocks : R (.instant now) (.instant now'))
    (entities : EntityAlike tables R entity entity') :
    Outcome.Alike (Query.Alike R) ((g.update now entity).map Prod.fst)
      ((g'.update now' entity').map Prod.fst) := by
  have written : Outcome.Alike (fun answer answer' => answer.1.Alike R answer'.1)
      (g.update now entity) (g'.update now' entity') := by
    unfold update
    rw [← gateways.definition, gateways.table, gateways.settings]
    apply (assignments_alike gateways.known _ entities).bind
    intro columns columns' lists
    apply (Assignment.make_alike _ _ clocks).bind
    intro stamp stamp' stamps
    have all := List.rel_append lists (.cons stamps .nil)
    apply (Update.assemble_alike _ all gateways.filter.block).bind
    intro draft draft' drafts
    exact .ok (drafts.bake _)
  exact written.map fun _ _ answers => answers

/-- Deletions by alike filters are alike. -/
theorem delete_alike (gateways : g.Alike tables R g') : g.delete.Alike R g'.delete := by
  unfold delete
  rw [gateways.table, gateways.settings]
  exact (Delete.assemble_alike _ gateways.filter.block).bake _

/-- Alike changes keep gateways alike, or are refused for the same reason. -/
theorem change_alike (gateways : g.Alike tables R g') {change change' : GatewayChange}
    (changes : change.Alike R change') :
    Outcome.Alike (Alike tables R) (g.change change) (g'.change change') := by
  cases changes with
  | filter steps =>
    apply (Filter.step_alike gateways.filter steps).map
    intro filter filter' filters
    exact { gateways with filter := filters }
  | nest aliasName steps =>
    apply (Filter.build_alike aliasName steps).map
    intro other other' others
    exact { gateways with filter := gateways.filter.addGroup others }
  | join joined =>
    have joins := List.rel_append gateways.joins (.cons joined .nil)
    exact .ok { gateways with joins := joins }
  | orderBy column order =>
    unfold change
    rw [gateways.ordering]
    apply (Outcome.Alike.refl _).map
    intro ordering ordering' same
    exact { gateways with ordering := same }
  | clearOrdering =>
    refine .ok { gateways with ordering := ?_ }
    simp only
    rw [gateways.ordering]
  | clearFilter => exact .ok { gateways with filter := gateways.filter.clear }
  | setFilter filters => exact .ok { gateways with filter := filters }
  | setOrdering ordering => exact .ok { gateways with ordering := rfl }

end EntityGateway

/-- Composites with alike bases and members that are combined in the same way. -/
structure CompositeGateway.Alike (tables : List (TableDefinition E)) (R : Value → Value → Prop)
    (c c' : CompositeGateway E) : Prop where
  base : c.base.Alike tables R c'.base
  members : List.Forall₂ (EntityGateway.Alike tables R) c.members c'.members
  combination : c.combination = c'.combination

namespace CompositeGateway

variable {c c' : CompositeGateway E}

/-- The filters that take part are alike, and as many. -/
theorem Alike.filters (composites : c.Alike tables R c') :
    List.Forall₂ (Filter.Alike R) c.filters c'.filters := by
  have kept : List.Forall₂ (Filter.Alike R) (c.members.map (·.filter))
      (c'.members.map (·.filter)) :=
    List.rel_map (fun _ _ gateways => gateways.filter) composites.members
  have own : List.Forall₂ (Filter.Alike R) [c.base.filter] [c'.base.filter] :=
    .cons composites.base.filter .nil
  unfold CompositeGateway.filters
  rw [composites.combination]
  refine List.rel_filter (fun filter filter' filters => ?_) (List.rel_append ?_ own)
  · simp only [filters.isEmpty]
  · split
    · exact kept
    · exact .nil

/-- Alike filters are combined alike, or refused for the same reason. -/
theorem combine_alike (aliasName : TableName) (combinator : Combinator)
    {filters filters' : List Filter} (lists : List.Forall₂ (Filter.Alike R) filters filters') :
    Outcome.Alike (Filter.Alike R) (combine aliasName combinator filters)
      (combine aliasName combinator filters') := by
  cases lists with
  | nil => exact .ok (Filter.alike_empty aliasName)
  | cons firsts others =>
    cases others with
    | nil => exact .ok firsts
    | cons nexts rest =>
      have start := (Filter.alike_empty aliasName).addGroup firsts
      have linked : ∀ combined combined' : Filter, combined.Alike R combined' →
          ∀ other other' : Filter, other.Alike R other' → Outcome.Alike (Filter.Alike R)
            ((combined.addCombinator combinator).map (·.addGroup other))
            ((combined'.addCombinator combinator).map (·.addGroup other')) := by
        intro combined combined' same other other' both
        apply (Filter.addCombinator_alike same combinator).map
        intro first first' links
        exact links.addGroup both
      exact Outcome.Alike.foldlM (.cons nexts rest) start linked

/-- Alike composites select by alike filters. -/
theorem Alike.combinedFilter (composites : c.Alike tables R c') :
    Outcome.Alike (Filter.Alike R) c.combinedFilter c'.combinedFilter := by
  unfold CompositeGateway.combinedFilter
  rw [composites.base.table, composites.combination]
  exact combine_alike _ _ composites.filters

/-- Alike composites select the same columns. -/
theorem Alike.projection (composites : c.Alike tables R c') (excluded : List String) :
    c.projection excluded = c'.projection excluded := by
  have each : ∀ {gateways gateways' : List (EntityGateway E)},
      List.Forall₂ (EntityGateway.Alike tables R) gateways gateways' →
        gateways.mapM (·.projection excluded) = gateways'.mapM (·.projection excluded) := by
    intro gateways gateways' lists
    induction lists with
    | nil => rfl
    | cons heads tails ih => rw [List.mapM_cons, List.mapM_cons, ih, heads.projection]
  unfold CompositeGateway.projection
  rw [each (.cons composites.base composites.members)]

/-- Alike composites sort in the same way. -/
theorem Alike.orderings (composites : c.Alike tables R c') : c.orderings = c'.orderings := by
  have each : ∀ {gateways gateways' : List (EntityGateway E)},
      List.Forall₂ (EntityGateway.Alike tables R) gateways gateways' →
        gateways.map (·.ordering) = gateways'.map (·.ordering) := by
    intro gateways gateways' lists
    induction lists with
    | nil => rfl
    | cons heads tails ih => rw [List.map_cons, List.map_cons, ih, heads.ordering]
  unfold CompositeGateway.orderings
  rw [composites.base.ordering, each composites.members]

theorem Alike.select (composites : c.Alike tables R c') (columns : Projection)
    {filter filter' : Filter} (filters : filter.Alike R filter') :
    (c.select columns filter).Alike R (c'.select columns filter') :=
  ⟨composites.base.table, rfl, composites.base.joins, filters.block, composites.orderings⟩

/-- Selections by alike combined filters are answered alike. -/
theorem get_alike (composites : c.Alike tables R c') (excluded : List String) :
    (c.get excluded).Alike (Query.Alike R) (c'.get excluded) := by
  unfold get
  rw [composites.base.settings, composites.projection]
  apply Reply.ofSelect_alike
  apply (Outcome.Alike.refl _).bind
  intro columns columns' same
  subst same
  apply composites.combinedFilter.bind
  intro filter filter' filters
  exact .ok (composites.select columns filters)

/-- Selections of related identities are answered alike. -/
theorem getById_alike (composites : c.Alike tables R c') {id id' : Value} (ids : R id id')
    (excluded : List String) :
    (c.getById id excluded).Alike (Query.Alike R) (c'.getById id' excluded) := by
  unfold getById
  rw [composites.base.settings, composites.projection, composites.base.table]
  apply Reply.ofSelect_alike
  apply (Outcome.Alike.refl _).bind
  intro columns columns' same
  subst same
  apply (EntityGateway.identity_alike _ ids).bind
  intro identity identity' filters
  exact .ok (composites.select columns filters)

/-- Alike changes keep composites alike, or are refused for the same reason. -/
theorem change_alike (composites : c.Alike tables R c') {change change' : GatewayChange}
    (changes : change.Alike R change') :
    Outcome.Alike (Alike tables R) (c.change change) (c'.change change') :=
  (EntityGateway.change_alike composites.base changes).map fun _ _ bases =>
    { composites with base := bases }

theorem Alike.clearFilters (composites : c.Alike tables R c') :
    c.clearFilters.Alike tables R c'.clearFilters where
  base := { composites.base with filter := composites.base.filter.clear }
  members := List.rel_map (fun _ _ gateways => { gateways with filter := gateways.filter.clear })
    composites.members
  combination := composites.combination

end CompositeGateway

end BoundSql
