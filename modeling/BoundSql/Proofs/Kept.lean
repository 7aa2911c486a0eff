import BoundSql.Proofs.FilterInvariant
import BoundSql.Proofs.Runs

/-!
# What a program keeps

An `Upkeep` requires something of every filter and of every join that a program keeps: new
filters have what is required, and a step of a filter preserves it. Then every request preserves
it for all filters, gateways and composites of a program (`World.kept_step`), as long as the joins
that requests bring along have what is required. What holds of the gateway that answers a request
can so be concluded from the requests made before it (`World.kept_of_mem_run`).
-/

namespace BoundSql

open Outcome

/-- What is required of the filters and the joins that are kept. -/
structure Upkeep where
  /-- What is required of a filter. -/
  filter : Filter → Prop
  /-- What is required of a join. -/
  join : Join → Prop
  /-- New filters have it. -/
  empty (aliasName : TableName) : filter (.empty aliasName)
  /-- A step preserves it if a filter that is nested has it. -/
  step {before next : Filter} {change : FilterStep} (had : filter before)
    (inner : ∀ other, change = .group other → filter other)
    (accepted : before.step change = .ok next) : filter next

variable {E : Type} {tables : List (TableDefinition E)} {u : Upkeep}

/-- Items that are changed one at a time keep what every change preserves. -/
theorem forall_mem_of_changeAt {α : Type} {required : α → Prop} {change : α → Except QueryError α}
    {items items' : List α} {number : Nat} (had : ∀ item ∈ items, required item)
    (preserves : ∀ item next, required item → change item = .ok next → required next)
    (changed : changeAt change items number = .ok items') : ∀ item ∈ items', required item := by
  intro item member
  rcases mem_of_changeAt changed member with old | ⟨before, inside, made⟩
  · exact had item old
  · exact preserves before item (had before inside) made

namespace Upkeep

/-- Nesting one filter into another preserves what is required. -/
theorem addGroup (u : Upkeep) {before other : Filter} (had : u.filter before)
    (inner : u.filter other) : u.filter (before.addGroup other) := by
  have nested : ∀ given, FilterStep.group other = .group given → u.filter given := by
    rintro _ ⟨⟩
    exact inner
  exact u.step had nested rfl

/-- Steps taken one after the other preserve what is required of a filter. -/
theorem foldlM_step (u : Upkeep) {steps : List FilterStep} {start built : Filter}
    (had : u.filter start) (inner : ∀ step ∈ steps, ∀ other, step = .group other → u.filter other)
    (made : steps.foldlM Filter.step start = .ok built) : u.filter built := by
  induction steps generalizing start with
  | nil =>
    cases made
    exact had
  | cons step rest ih =>
    rw [List.foldlM_cons] at made
    obtain ⟨next, accepted, made⟩ := bind_eq_ok.1 made
    have first := u.step had (inner step List.mem_cons_self) accepted
    exact ih first (fun later member => inner later (List.mem_cons_of_mem step member)) made

/-- A filter that is built by steps has what is required. -/
theorem build (u : Upkeep) {aliasName : String} {steps : List FilterStep} {built : Filter}
    (inner : ∀ step ∈ steps, ∀ other, step = .group other → u.filter other)
    (made : Filter.build aliasName steps = .ok built) : u.filter built := by
  obtain ⟨start, named, made⟩ := bind_eq_ok.1 made
  obtain ⟨name, _, rfl⟩ := map_eq_ok.1 named
  exact u.foldlM_step (u.empty name) inner made

end Upkeep

/-- What a change brings into a gateway has what is required. -/
def GatewayChange.Brings (u : Upkeep) : GatewayChange → Prop
  | .filter step => ∀ other, step = .group other → u.filter other
  | .nest _ steps => ∀ step ∈ steps, ∀ other, step = .group other → u.filter other
  | .join joined => u.join joined
  | .setFilter other => u.filter other
  | _ => True

/-- A gateway of one of the tables that keeps nothing but what has what is required. -/
structure EntityGateway.Kept (u : Upkeep) (tables : List (TableDefinition E))
    (g : EntityGateway E) : Prop where
  known : g.definition ∈ tables
  filter : u.filter g.filter
  joins : ∀ join ∈ g.joins, u.join join

/-- A composite of such gateways. -/
structure CompositeGateway.Kept (u : Upkeep) (tables : List (TableDefinition E))
    (c : CompositeGateway E) : Prop where
  base : c.base.Kept u tables
  members : ∀ member ∈ c.members, member.Kept u tables

/-- A world of filters that have what is required, and of such gateways and composites. -/
structure World.Kept (u : Upkeep) (tables : List (TableDefinition E)) (w : World E) : Prop where
  filters : ∀ filter ∈ w.filters, u.filter filter
  gateways : ∀ g ∈ w.gateways, g.Kept u tables
  composites : ∀ c ∈ w.composites, c.Kept u tables

/-- Any change preserves what is required of a gateway. -/
theorem EntityGateway.kept_change {g next : EntityGateway E} {change : GatewayChange}
    (kept : g.Kept u tables) (brings : change.Brings u) (changed : g.change change = .ok next) :
    next.Kept u tables := by
  cases change with
  | filter step =>
    obtain ⟨filter, accepted, rfl⟩ := map_eq_ok.1 changed
    exact { kept with filter := u.step kept.filter brings accepted }
  | nest aliasName steps =>
    obtain ⟨other, made, rfl⟩ := map_eq_ok.1 changed
    exact { kept with filter := u.addGroup kept.filter (u.build brings made) }
  | join join =>
    cases changed
    refine { kept with joins := fun later member => ?_ }
    rcases List.mem_append.1 member with old | new
    · exact kept.joins later old
    · rw [List.mem_singleton.1 new]
      exact brings
  | orderBy column order =>
    obtain ⟨ordering, _, rfl⟩ := map_eq_ok.1 changed
    exact { kept with }
  | clearOrdering | setOrdering ordering =>
    cases changed
    exact { kept with }
  | clearFilter =>
    cases changed
    exact { kept with filter := u.empty _ }
  | setFilter filter =>
    cases changed
    exact { kept with filter := brings }

/-- A new gateway keeps an empty filter and no joins. -/
theorem EntityGateway.kept_makeAs {definition : TableDefinition E} (known : definition ∈ tables)
    {aliasName : String} {settings : Settings} {g : EntityGateway E}
    (made : makeAs definition aliasName settings = .ok g) : g.Kept u tables := by
  obtain ⟨table, _, rfl⟩ := map_eq_ok.1 made
  exact { known, filter := u.empty _, joins := fun _ member => absurd member List.not_mem_nil }

/-- Clearing all filters of a composite preserves what is required. -/
theorem CompositeGateway.kept_clearFilters {c : CompositeGateway E} (kept : c.Kept u tables) :
    c.clearFilters.Kept u tables where
  base := { kept.base with filter := u.empty _ }
  members := by
    intro cleared member
    obtain ⟨before, inside, rfl⟩ := List.mem_map.1 member
    exact { kept.members before inside with filter := u.empty _ }

namespace World

variable {w next : World E}

/-- A gateway of a kept world has what is required. -/
theorem Kept.gateway (kept : w.Kept u tables) {place : Place} {g : EntityGateway E}
    (found : w.gateway? place = some g) : g.Kept u tables := by
  cases place with
  | single number => exact kept.gateways g (List.mem_of_getElem? found)
  | base composite =>
    obtain ⟨c, there, rfl⟩ := Option.map_eq_some_iff.1 found
    exact (kept.composites c (List.mem_of_getElem? there)).base
  | member composite number =>
    obtain ⟨c, there, inside⟩ := Option.bind_eq_some_iff.1 found
    exact (kept.composites c (List.mem_of_getElem? there)).members g (List.mem_of_getElem? inside)

/-- A filter of a kept world has what is required. -/
theorem Kept.filter (kept : w.Kept u tables) {place : FilterPlace} {filter : Filter}
    (found : w.filter? place = some filter) : u.filter filter := by
  cases place with
  | free number => exact kept.filters filter (List.mem_of_getElem? found)
  | kept place =>
    obtain ⟨g, there, rfl⟩ := Option.map_eq_some_iff.1 found
    exact (kept.gateway there).filter

theorem kept_changeComposite (kept : w.Kept u tables) {composite : Nat}
    {change : CompositeGateway E → Except QueryError (CompositeGateway E)}
    (preserves : ∀ c next, c.Kept u tables → change c = .ok next → next.Kept u tables)
    (changed : w.changeComposite composite change = .ok next) : next.Kept u tables := by
  obtain ⟨composites, made, rfl⟩ := map_eq_ok.1 changed
  exact { kept with composites := forall_mem_of_changeAt kept.composites preserves made }

/-- A change of a gateway preserves what is required of all. -/
theorem kept_changeGateway (kept : w.Kept u tables) {place : Place} {change : GatewayChange}
    (brings : change.Brings u) (changed : w.changeGateway place change = .ok next) :
    next.Kept u tables := by
  have one : ∀ g next : EntityGateway E, g.Kept u tables → g.change change = .ok next →
      next.Kept u tables := fun _ _ had made =>
    EntityGateway.kept_change had brings made
  cases place with
  | single number =>
    obtain ⟨gateways, made, rfl⟩ := map_eq_ok.1 changed
    exact { kept with gateways := forall_mem_of_changeAt kept.gateways one made }
  | base composite =>
    refine kept_changeComposite kept (fun c next had made => ?_) changed
    obtain ⟨base, accepted, rfl⟩ := map_eq_ok.1 made
    exact { had with base := one c.base base had.base accepted }
  | member composite number =>
    refine kept_changeComposite kept (fun c next had made => ?_) changed
    obtain ⟨members, accepted, rfl⟩ := map_eq_ok.1 made
    exact { had with members := forall_mem_of_changeAt had.members one accepted }

/-- A step of a filter preserves what is required of all. -/
theorem kept_stepFilter (kept : w.Kept u tables) {place : FilterPlace} {step : FilterStep}
    (inner : ∀ other, step = .group other → u.filter other)
    (changed : w.stepFilter place step = .ok next) : next.Kept u tables := by
  cases place with
  | free number =>
    obtain ⟨filters, made, rfl⟩ := map_eq_ok.1 changed
    have one : ∀ filter next, u.filter filter → filter.step step = .ok next → u.filter next :=
      fun _ _ had accepted => u.step had inner accepted
    exact { kept with filters := forall_mem_of_changeAt kept.filters one made }
  | kept place =>
    have brings : GatewayChange.Brings u (.filter step) := inner
    exact kept_changeGateway kept brings changed

/-- Another filter in the place of one preserves what is required if it has it. -/
theorem kept_replaceFilter (kept : w.Kept u tables) {place : FilterPlace} {other : Filter}
    (had : u.filter other) (changed : w.replaceFilter place other = .ok next) :
    next.Kept u tables := by
  cases place with
  | free number =>
    obtain ⟨filters, made, rfl⟩ := map_eq_ok.1 changed
    refine { kept with filters := forall_mem_of_changeAt kept.filters ?_ made }
    rintro _ _ _ ⟨⟩
    exact had
  | kept place =>
    have brings : GatewayChange.Brings u (.setFilter other) := had
    exact kept_changeGateway kept brings changed

/-- What is required stays if a change is accepted that preserves it, and if one is refused. -/
theorem kept_attempt (kept : w.Kept u tables) {changed : Except QueryError (World E)}
    (preserves : ∀ next, changed = .ok next → next.Kept u tables) :
    (w.attempt changed).1.Kept u tables := by
  cases changed with
  | error cause => exact kept
  | ok next => exact preserves next rfl

/-- New gateways of the tables have what is required. -/
theorem kept_openGateway {settings : Settings} {table : Nat × String}
    {opened : List (EntityGateway E)} (made : openGateway tables settings table = .ok opened) :
    ∀ g ∈ opened, g.Kept u tables := by
  unfold openGateway at made
  split at made
  · cases made
    exact fun _ member => absurd member List.not_mem_nil
  · next definition found =>
    obtain ⟨g, named, rfl⟩ := map_eq_ok.1 made
    intro member inside
    rw [List.mem_singleton.1 inside]
    exact EntityGateway.kept_makeAs (List.mem_of_getElem? found) named

/-- A new composite has what is required. -/
theorem kept_composed {bases members : List (EntityGateway E)}
    (heads : ∀ g ∈ bases, g.Kept u tables) (others : ∀ g ∈ members, g.Kept u tables) :
    ∀ c ∈ composed bases members, c.Kept u tables := by
  intro c member
  obtain ⟨base, inside, rfl⟩ := List.mem_map.1 member
  exact ⟨heads base inside, others⟩

/-- A request without values preserves what is required. -/
theorem kept_perform (kept : w.Kept u tables) (request : PlainRequest) :
    (w.perform tables request).1.Kept u tables := by
  have added {α : Type} {required : α → Prop} {old new : List α}
      (olds : ∀ item ∈ old, required item) (news : ∀ item ∈ new, required item) :
      ∀ item ∈ old ++ new, required item := fun item member =>
    (List.mem_append.1 member).elim (olds item) (news item)
  cases request with
  | newFilter aliasName =>
    refine kept_attempt kept fun next changed => ?_
    obtain ⟨filter, made, rfl⟩ := map_eq_ok.1 changed
    obtain ⟨name, _, rfl⟩ := map_eq_ok.1 made
    have one : ∀ filter ∈ [Filter.empty name], u.filter filter := by
      simpa using u.empty name
    exact { kept with filters := added kept.filters one }
  | newGateway table aliasName settings =>
    refine kept_attempt kept fun next changed => ?_
    obtain ⟨opened, made, rfl⟩ := map_eq_ok.1 changed
    exact { kept with gateways := added kept.gateways (kept_openGateway made) }
  | newComposite base members settings =>
    refine kept_attempt kept fun next changed => ?_
    obtain ⟨bases, heads, changed⟩ := bind_eq_ok.1 changed
    obtain ⟨opened, others, changed⟩ := bind_eq_ok.1 changed
    cases changed
    have each : ∀ g ∈ opened.flatten, g.Kept u tables := by
      intro g inside
      obtain ⟨row, member, inside⟩ := List.mem_flatten.1 inside
      obtain ⟨table, made⟩ := exists_of_mem_mapM others member
      exact kept_openGateway made g inside
    have composites := kept_composed (kept_openGateway heads) each
    exact { kept with composites := added kept.composites composites }
  | combinator target combinator =>
    exact kept_attempt kept fun next changed => kept_stepFilter kept (by nofun) changed
  | group target source =>
    unfold perform
    simp only
    split
    · exact kept
    · next other found =>
      refine kept_attempt kept fun next changed => kept_stepFilter kept ?_ changed
      rintro _ ⟨⟩
      exact kept.filter found
  | clearFilter target =>
    exact kept_attempt kept fun next changed => kept_stepFilter kept (by nofun) changed
  | setFilter target source =>
    unfold perform
    simp only
    split
    · exact kept
    · next other found =>
      have had := kept.filter found
      exact kept_attempt kept fun next changed => kept_replaceFilter kept had changed
  | orderBy target column order =>
    exact kept_attempt kept fun next changed => kept_changeGateway kept (by trivial) changed
  | clearOrdering target =>
    exact kept_attempt kept fun next changed => kept_changeGateway kept (by trivial) changed
  | newOrdering target aliasName =>
    refine kept_attempt kept fun next changed => ?_
    obtain ⟨ordering, _, changed⟩ := bind_eq_ok.1 changed
    exact kept_changeGateway kept (by trivial) changed
  | combination composite combination =>
    refine kept_attempt kept fun next changed => kept_changeComposite kept ?_ changed
    rintro c _ had ⟨⟩
    exact { had with }
  | clearFilters composite =>
    refine kept_attempt kept fun next changed => kept_changeComposite kept ?_ changed
    rintro c _ had ⟨⟩
    exact CompositeGateway.kept_clearFilters had
  | get source excluded => exact kept
  | delete target => exact kept

end World

/-- The join a request brings along, if it brings one, has what is required. -/
def Request.Brings (u : Upkeep) : Request E → Prop
  | .join _ table aliasName plan kind cardinality => ∀ block join, plan.build = .ok block →
    Join.make table aliasName block kind cardinality = .ok join → u.join join
  | _ => True

namespace World

variable {w : World E}

/-- A request preserves what is required if the join it brings along has it. -/
theorem kept_step (kept : w.Kept u tables) {request : Request E} (brings : request.Brings u) :
    (w.step tables request).1.Kept u tables := by
  cases request with
  | plain request => exact kept_perform kept request
  | condition target column comparison operand =>
    exact kept_attempt kept fun next changed => kept_stepFilter kept (by nofun) changed
  | join target table aliasName plan kind cardinality =>
    refine kept_attempt kept fun next changed => ?_
    obtain ⟨block, built, changed⟩ := bind_eq_ok.1 changed
    obtain ⟨join, made, changed⟩ := bind_eq_ok.1 changed
    have brought : GatewayChange.Brings u (.join join) := brings block join built made
    exact kept_changeGateway kept brought changed
  | getById source id excluded => exact kept
  | insert target now entity => exact kept
  | update target now entity => exact kept

/-- A new world keeps nothing. -/
theorem kept_empty (u : Upkeep) (tables : List (TableDefinition E)) :
    Kept u tables ({} : World E) := by
  constructor <;> exact fun _ member => absurd member List.not_mem_nil

/-- Every answer of a run is given by a world that has what is required. -/
theorem kept_of_mem_run {requests : List (Request E)} (kept : w.Kept u tables)
    (brings : ∀ request ∈ requests, request.Brings u) {request : Request E} {answer : Answer}
    (asked : (request, answer) ∈ requests.zip (w.run tables requests)) :
    ∃ before : World E, before.Kept u tables ∧ answer = (before.step tables request).2 := by
  induction requests generalizing w with
  | nil => cases asked
  | cons first rest ih =>
    rw [run, List.zip_cons_cons, List.mem_cons] at asked
    rcases asked with same | later
    · cases same
      exact ⟨w, kept, rfl⟩
    · exact ih (kept_step kept (brings first List.mem_cons_self))
        (fun request member => brings request (List.mem_cons_of_mem first member)) later

end World

end BoundSql
