import BoundSql.Proofs.AlikeGateways
import BoundSql.Proofs.Runs

/-!
# Two runs with different values

Two runs that make the same requests with different values get the same answers, apart
from the values: every request is answered or refused alike, with the same text, and the
values bound to it are related place by place. The invariant is that the worlds of the two
runs are alike (`World.Alike`); every request preserves it (`World.step_alike`).

The relation is free, so it can say where values come from. With the relation of the
values that the two runs are supplied with at the same place, the values bound to a
statement differ only where the supplied ones do (`World.run_same_text`).
-/

namespace BoundSql

variable {R S : Value → Value → Prop} {E : Type} {tables : List (TableDefinition E)}

/-- Requests that differ in values only. -/
inductive Request.Alike (tables : List (TableDefinition E)) (R : Value → Value → Prop) :
    Request E → Request E → Prop where
  | plain (request : PlainRequest) : Request.Alike tables R (.plain request) (.plain request)
  | condition (target : FilterPlace) (column : String) (comparison : Comparison)
    {operand operand' : Operand} (operands : operand.Alike R operand') :
    Request.Alike tables R (.condition target column comparison operand)
      (.condition target column comparison operand')
  | join (target : Place) (table aliasName : String) {plan plan' : BlockPlan}
    (plans : plan.Alike R plan') (kind : JoinKind) (cardinality : Cardinality) :
    Request.Alike tables R (.join target table aliasName plan kind cardinality)
      (.join target table aliasName plan' kind cardinality)
  | getById (source : Source) {id id' : Value} (ids : R id id') (excluded : List String) :
    Request.Alike tables R (.getById source id excluded) (.getById source id' excluded)
  | insert (target : Place) {now now' : Instant} {entity entity' : E}
    (clocks : R (.instant now) (.instant now')) (entities : EntityAlike tables R entity entity') :
    Request.Alike tables R (.insert target now entity) (.insert target now' entity')
  | update (target : Place) {now now' : Instant} {entity entity' : E}
    (clocks : R (.instant now) (.instant now')) (entities : EntityAlike tables R entity entity') :
    Request.Alike tables R (.update target now entity) (.update target now' entity')

/-- Answers with the same events that are refusals for the same reason, or no statements, or
statements with the same text and related values. -/
def Answer.Alike (R : Value → Value → Prop) (answer answer' : Answer) : Prop :=
  Reply.Alike (Option.Rel (Query.Alike R)) answer answer'

/-- Worlds whose filters, gateways and composites differ in values only. -/
structure World.Alike (tables : List (TableDefinition E)) (R : Value → Value → Prop)
    (w w' : World E) : Prop where
  filters : List.Forall₂ (Filter.Alike R) w.filters w'.filters
  gateways : List.Forall₂ (EntityGateway.Alike tables R) w.gateways w'.gateways
  composites : List.Forall₂ (CompositeGateway.Alike tables R) w.composites w'.composites

section Numbered

variable {α : Type} {related : α → α → Prop} {items items' : List α}

/-- Items with the same number are changed alike, and the others stay. -/
theorem changeAt_alike {change change' : α → Except QueryError α}
    (lists : List.Forall₂ related items items')
    (keeps : ∀ item item', related item item' → Outcome.Alike related (change item) (change' item'))
    (number : Nat) :
    Outcome.Alike (List.Forall₂ related) (changeAt change items number)
      (changeAt change' items' number) := by
  induction lists generalizing number with
  | nil => exact .ok .nil
  | cons heads tails ih =>
    cases number with
    | zero => exact (keeps _ _ heads).map fun _ _ changed => .cons changed tails
    | succ number => exact (ih number).map fun _ _ others => .cons heads others

/-- A reply to a request about something that exists in both worlds or in neither. -/
theorem Answer.ofReply?_alike {reply reply' : Option (Reply Query)}
    (replies : Option.Rel (Reply.Alike (Query.Alike R)) reply reply') :
    (ofReply? reply).Alike R (ofReply? reply') := by
  cases replies with
  | none => exact ⟨rfl, .ok .none⟩
  | some both => exact ⟨both.events, both.result.map fun _ _ => .some⟩

end Numbered

namespace World

variable {w w' : World E}

theorem Alike.gateway? (worlds : w.Alike tables R w') (place : Place) :
    Option.Rel (EntityGateway.Alike tables R) (w.gateway? place) (w'.gateway? place) := by
  cases place with
  | single number => exact Outcome.getElem?_related worlds.gateways number
  | base composite =>
    have found := Outcome.getElem?_related worlds.composites composite
    exact Outcome.map_related found fun _ _ both => both.base
  | member composite number =>
    unfold World.gateway?
    simp only
    have found := Outcome.getElem?_related worlds.composites composite
    revert found
    generalize w.composites[composite]? = c, w'.composites[composite]? = c'
    intro found
    cases found with
    | none => exact .none
    | some both => exact Outcome.getElem?_related both.members number

theorem Alike.filter? (worlds : w.Alike tables R w') (place : FilterPlace) :
    Option.Rel (Filter.Alike R) (w.filter? place) (w'.filter? place) := by
  cases place with
  | free number => exact Outcome.getElem?_related worlds.filters number
  | kept place => exact Outcome.map_related (worlds.gateway? place) fun _ _ both => both.filter

theorem changeComposite_alike (worlds : w.Alike tables R w') (composite : Nat)
    {change change' : CompositeGateway E → Except QueryError (CompositeGateway E)}
    (keeps : ∀ c c', c.Alike tables R c' →
      Outcome.Alike (CompositeGateway.Alike tables R) (change c) (change' c')) :
    Outcome.Alike (Alike tables R) (w.changeComposite composite change)
      (w'.changeComposite composite change') :=
  (changeAt_alike worlds.composites keeps composite).map fun _ _ changed =>
    { worlds with composites := changed }

/-- A gateway is changed in both worlds, or the change is refused for the same reason. -/
theorem changeGateway_alike (worlds : w.Alike tables R w') (place : Place)
    {change change' : GatewayChange} (changes : change.Alike R change') :
    Outcome.Alike (Alike tables R) (w.changeGateway place change)
      (w'.changeGateway place change') := by
  cases place with
  | single number =>
    have changed := changeAt_alike worlds.gateways
      (fun _ _ both => EntityGateway.change_alike both changes) number
    exact changed.map fun _ _ gateways => { worlds with gateways := gateways }
  | base composite =>
    exact changeComposite_alike worlds composite fun _ _ both =>
      CompositeGateway.change_alike both changes
  | member composite number =>
    apply changeComposite_alike worlds composite
    intro c c' both
    have changed := changeAt_alike both.members
      (fun _ _ same => EntityGateway.change_alike same changes) number
    exact changed.map fun _ _ members => { both with members := members }

/-- A filter takes a step in both worlds, or the step is refused for the same reason. -/
theorem stepFilter_alike (worlds : w.Alike tables R w') (place : FilterPlace)
    {step step' : FilterStep} (steps : step.Alike R step') :
    Outcome.Alike (Alike tables R) (w.stepFilter place step) (w'.stepFilter place step') := by
  cases place with
  | free number =>
    have changed := changeAt_alike worlds.filters
      (fun _ _ both => Filter.step_alike both steps) number
    exact changed.map fun _ _ filters => { worlds with filters := filters }
  | kept place => exact changeGateway_alike worlds place (.filter steps)

/-- Alike filters in the place of others keep worlds alike. -/
theorem replaceFilter_alike (worlds : w.Alike tables R w') (place : FilterPlace)
    {other other' : Filter} (both : other.Alike R other') :
    Outcome.Alike (Alike tables R) (w.replaceFilter place other)
      (w'.replaceFilter place other') := by
  cases place with
  | free number =>
    have changed := changeAt_alike worlds.filters (fun _ _ _ => .ok both) number
    exact changed.map fun _ _ filters => { worlds with filters := filters }
  | kept place => exact changeGateway_alike worlds place (.setFilter both)

/-- Both worlds change alike, or both stay, and the answer says which. -/
theorem attempt_alike (worlds : w.Alike tables R w')
    {changed changed' : Except QueryError (World E)}
    (outcomes : Outcome.Alike (Alike tables R) changed changed') :
    (w.attempt changed).1.Alike tables R (w'.attempt changed').1 ∧
      (w.attempt changed).2.Alike R (w'.attempt changed').2 := by
  cases outcomes with
  | error cause => exact ⟨worlds, rfl, .error cause⟩
  | ok next => exact ⟨next, rfl, .ok .none⟩

theorem openGateway_alike (settings : Settings) (table : Nat × String) :
    Outcome.Alike (List.Forall₂ (EntityGateway.Alike tables R)) (openGateway tables settings table)
      (openGateway tables settings table) := by
  unfold openGateway
  split
  · exact .ok .nil
  · next definition found =>
    have known := List.mem_of_getElem? found
    exact (EntityGateway.makeAs_alike known table.2 settings).map fun _ _ both => .cons both .nil

theorem composed_alike {bases bases' members members' : List (EntityGateway E)}
    (heads : List.Forall₂ (EntityGateway.Alike tables R) bases bases')
    (others : List.Forall₂ (EntityGateway.Alike tables R) members members') :
    List.Forall₂ (CompositeGateway.Alike tables R) (composed bases members)
      (composed bases' members') :=
  List.rel_map (fun _ _ both => ⟨both, others, rfl⟩) heads

theorem get_alike (worlds : w.Alike tables R w') (excluded : List String) (source : Source) :
    (w.get excluded source).Alike R (w'.get excluded source) := by
  cases source with
  | gateway place =>
    apply Answer.ofReply?_alike
    exact Outcome.map_related (worlds.gateway? place) fun _ _ both =>
      EntityGateway.get_alike both excluded
  | composite number =>
    have found := Outcome.getElem?_related worlds.composites number
    apply Answer.ofReply?_alike
    exact Outcome.map_related found fun _ _ both => CompositeGateway.get_alike both excluded

theorem getById_alike (worlds : w.Alike tables R w') {id id' : Value} (ids : R id id')
    (excluded : List String) (source : Source) :
    (w.getById id excluded source).Alike R (w'.getById id' excluded source) := by
  cases source with
  | gateway place =>
    apply Answer.ofReply?_alike
    exact Outcome.map_related (worlds.gateway? place) fun _ _ both =>
      EntityGateway.getById_alike both ids excluded
  | composite number =>
    have found := Outcome.getElem?_related worlds.composites number
    apply Answer.ofReply?_alike
    exact Outcome.map_related found fun _ _ both =>
      CompositeGateway.getById_alike both ids excluded

theorem write_alike (worlds : w.Alike tables R w') (place : Place)
    {statement statement' : EntityGateway E → Except QueryError Query}
    (statements : ∀ g g', g.Alike tables R g' →
      Outcome.Alike (Query.Alike R) (statement g) (statement' g')) :
    (w.write place statement).Alike R (w'.write place statement') :=
  Answer.ofReply?_alike (Outcome.map_related (worlds.gateway? place) fun g g' both =>
    ⟨rfl, statements g g' both⟩)

/-- The same request without values keeps worlds alike, and is answered alike. -/
theorem perform_alike (worlds : w.Alike tables R w') (request : PlainRequest) :
    (w.perform tables request).1.Alike tables R (w'.perform tables request).1 ∧
      (w.perform tables request).2.Alike R (w'.perform tables request).2 := by
  cases request with
  | newFilter aliasName =>
    apply attempt_alike worlds
    exact (Filter.make_alike aliasName).map fun _ _ filters =>
      { worlds with filters := List.rel_append worlds.filters (.cons filters .nil) }
  | newGateway table aliasName settings =>
    apply attempt_alike worlds
    exact (openGateway_alike settings (table, aliasName)).map fun _ _ opened =>
      { worlds with gateways := List.rel_append worlds.gateways opened }
  | newComposite base members settings =>
    apply attempt_alike worlds
    have opening : ∀ table table' : Nat × String, table = table' →
        Outcome.Alike (List.Forall₂ (EntityGateway.Alike tables R))
          (openGateway tables settings table) (openGateway tables settings table') := by
      intro table table' same
      subst same
      exact openGateway_alike settings table
    have lists : List.Forall₂ Eq members members := List.forall₂_same.2 fun _ _ => rfl
    apply (opening base base rfl).bind
    intro bases bases' heads
    apply (Outcome.Alike.mapM lists opening).bind
    intro opened opened' others
    have composites := composed_alike heads (List.rel_flatten others)
    exact .ok { worlds with composites := List.rel_append worlds.composites composites }
  | combinator target combinator =>
    exact attempt_alike worlds (stepFilter_alike worlds target (.combinator combinator))
  | group target source =>
    unfold perform
    have found := worlds.filter? source
    revert found
    simp only
    generalize w.filter? source = other, w'.filter? source = other'
    intro found
    cases found with
    | none => exact ⟨worlds, Answer.ofReply?_alike .none⟩
    | some both => exact attempt_alike worlds (stepFilter_alike worlds target (.group both))
  | clearFilter target => exact attempt_alike worlds (stepFilter_alike worlds target .clear)
  | setFilter target source =>
    unfold perform
    have found := worlds.filter? source
    revert found
    simp only
    generalize w.filter? source = other, w'.filter? source = other'
    intro found
    cases found with
    | none => exact ⟨worlds, Answer.ofReply?_alike .none⟩
    | some both => exact attempt_alike worlds (replaceFilter_alike worlds target both)
  | orderBy target column order =>
    exact attempt_alike worlds (changeGateway_alike worlds target (.orderBy column order))
  | clearOrdering target =>
    exact attempt_alike worlds (changeGateway_alike worlds target .clearOrdering)
  | newOrdering target aliasName =>
    apply attempt_alike worlds
    apply (Outcome.Alike.refl _).bind
    intro ordering ordering' same
    subst same
    exact changeGateway_alike worlds target (.setOrdering ordering)
  | combination composite combination =>
    refine attempt_alike worlds (changeComposite_alike worlds composite fun c c' both => ?_)
    exact .ok { both with combination := rfl }
  | clearFilters composite =>
    refine attempt_alike worlds (changeComposite_alike worlds composite fun c c' both => ?_)
    exact .ok both.clearFilters
  | get source excluded => exact ⟨worlds, get_alike worlds excluded source⟩
  | delete target =>
    exact ⟨worlds, write_alike worlds target fun _ _ both => .ok (EntityGateway.delete_alike both)⟩

/-- Requests that differ in values only keep worlds alike, and are answered alike. -/
theorem step_alike (worlds : w.Alike tables R w') {request request' : Request E}
    (requests : request.Alike tables R request') :
    (w.step tables request).1.Alike tables R (w'.step tables request').1 ∧
      (w.step tables request).2.Alike R (w'.step tables request').2 := by
  cases requests with
  | plain request => exact perform_alike worlds request
  | condition target column comparison operands =>
    have step : FilterStep.Alike R _ _ := .condition column comparison operands
    exact attempt_alike worlds (stepFilter_alike worlds target step)
  | join target table aliasName plans kind cardinality =>
    apply attempt_alike worlds
    apply (BlockPlan.build_alike plans).bind
    intro block block' blocks
    apply (Join.make_alike table aliasName blocks kind cardinality).bind
    intro join join' joined
    exact changeGateway_alike worlds target (.join joined)
  | getById source ids excluded => exact ⟨worlds, getById_alike worlds ids excluded source⟩
  | insert target clocks entities =>
    exact ⟨worlds, write_alike worlds target fun _ _ both =>
      EntityGateway.insert_alike both clocks entities⟩
  | update target clocks entities =>
    exact ⟨worlds, write_alike worlds target fun _ _ both =>
      EntityGateway.update_alike both clocks entities⟩

/-- Runs from alike worlds, with requests that differ in values only, are answered alike. -/
theorem run_alike {requests requests' : List (Request E)}
    (lists : List.Forall₂ (Request.Alike tables R) requests requests')
    (worlds : w.Alike tables R w') :
    List.Forall₂ (Answer.Alike R) (run tables w requests) (run tables w' requests') := by
  induction lists generalizing w w' with
  | nil => exact .nil
  | cons heads tails ih =>
    obtain ⟨next, answers⟩ := step_alike worlds heads
    exact .cons answers (ih next)

end World

/-- Alike operands have related values. -/
theorem Operand.Alike.values {operand operand' : Operand} (operands : operand.Alike R operand') :
    List.Forall₂ R operand.values operand'.values := by
  cases operands with
  | none => exact .nil
  | single values => exact .cons values .nil
  | list values => exact values

/-- Operands of the same shape whose values are related in another way are alike in that
way, too. -/
theorem Operand.Alike.of_values {operand operand' : Operand} (operands : operand.Alike S operand')
    (values : List.Forall₂ R operand.values operand'.values) : operand.Alike R operand' := by
  cases operands with
  | none => exact .none
  | single same =>
    cases values with
    | cons heads tails => exact .single heads
  | list same => exact .list values

mutual

/-- Alike plans supply related values. -/
theorem PartPlan.Alike.values : {part part' : PartPlan} → part.Alike R part' →
    List.Forall₂ R part.values part'.values
  | _, _, .condition _ _ _ operands => operands.values
  | _, _, .group blocks => BlockPlan.Alike.values blocks
  | _, _, .text _ => .nil

/-- Alike plans supply related values. -/
theorem BlockPlan.Alike.values : {block block' : BlockPlan} → block.Alike R block' →
    List.Forall₂ R block.values block'.values
  | _, _, .empty => .nil
  | _, _, .push _ blocks parts =>
    List.rel_append (BlockPlan.Alike.values blocks) (PartPlan.Alike.values parts)
  | _, _, .ofParts rows => RowPlan.Alike.values rows
  | _, _, .addCondition _ _ _ _ blocks operands =>
    List.rel_append (BlockPlan.Alike.values blocks) operands.values
  | _, _, .addGroup _ blocks groups =>
    List.rel_append (BlockPlan.Alike.values blocks) (BlockPlan.Alike.values groups)
  | _, _, .addText _ blocks => by
    have inner := BlockPlan.Alike.values blocks
    exact inner

/-- Alike plans supply related values. -/
theorem RowPlan.Alike.values : {row row' : RowPlan} → row.Alike R row' →
    List.Forall₂ R row.values row'.values
  | _, _, .nil => .nil
  | _, _, .cons _ parts others =>
    List.rel_append (PartPlan.Alike.values parts) (RowPlan.Alike.values others)

end

mutual

/-- Plans of the same shape are alike in the way in which their values are related. -/
theorem PartPlan.Alike.of_values : {part part' : PartPlan} → part.Alike S part' →
    List.Forall₂ R part.values part'.values → part.Alike R part'
  | _, _, .condition qualifier column comparison operands, values =>
    .condition qualifier column comparison (operands.of_values values)
  | _, _, .group blocks, values => .group (BlockPlan.Alike.of_values blocks values)
  | _, _, .text text, _ => .text text

/-- Plans of the same shape are alike in the way in which their values are related. -/
theorem BlockPlan.Alike.of_values : {block block' : BlockPlan} → block.Alike S block' →
    List.Forall₂ R block.values block'.values → block.Alike R block'
  | _, _, .empty, _ => .empty
  | _, _, .push link blocks parts, all => by
    have lengths := (BlockPlan.Alike.values blocks).length_eq
    obtain ⟨first, second⟩ := Outcome.forall₂_of_append lengths all
    exact .push link (BlockPlan.Alike.of_values blocks first)
      (PartPlan.Alike.of_values parts second)
  | _, _, .ofParts rows, values => .ofParts (RowPlan.Alike.of_values rows values)
  | _, _, .addCondition requested qualifier column comparison blocks operands, all => by
    have lengths := (BlockPlan.Alike.values blocks).length_eq
    obtain ⟨first, second⟩ := Outcome.forall₂_of_append lengths all
    exact .addCondition requested qualifier column comparison
      (BlockPlan.Alike.of_values blocks first) (operands.of_values second)
  | _, _, .addGroup requested blocks groups, all => by
    have lengths := (BlockPlan.Alike.values blocks).length_eq
    obtain ⟨first, second⟩ := Outcome.forall₂_of_append lengths all
    exact .addGroup requested (BlockPlan.Alike.of_values blocks first)
      (BlockPlan.Alike.of_values groups second)
  | _, _, .addText text blocks, values => .addText text (BlockPlan.Alike.of_values blocks values)

/-- Plans of the same shape are alike in the way in which their values are related. -/
theorem RowPlan.Alike.of_values : {row row' : RowPlan} → row.Alike S row' →
    List.Forall₂ R row.values row'.values → row.Alike R row'
  | _, _, .nil, _ => .nil
  | _, _, .cons link parts others, all => by
    have lengths := (PartPlan.Alike.values parts).length_eq
    obtain ⟨first, second⟩ := Outcome.forall₂_of_append lengths all
    exact .cons link (PartPlan.Alike.of_values parts first) (RowPlan.Alike.of_values others second)

end

/-- Alike entities have related values. -/
theorem EntityAlike.values {entity entity' : E} (entities : EntityAlike tables R entity entity') :
    List.Forall₂ R (entityValues tables entity) (entityValues tables entity') :=
  Outcome.filterMap_related entities

/-- Entities with values for the same columns are alike in the way in which these are
related. -/
theorem EntityAlike.of_values {entity entity' : E} (entities : EntityAlike tables S entity entity')
    (values : List.Forall₂ R (entityValues tables entity) (entityValues tables entity')) :
    EntityAlike tables R entity entity' :=
  Outcome.related_of_filterMap entities values

namespace Request

variable {request request' : Request E} {requests requests' : List (Request E)}

/-- Alike requests supply related values. -/
theorem Alike.values (both : request.Alike tables R request') :
    List.Forall₂ R (request.values tables) (request'.values tables) := by
  cases both with
  | plain request => exact .nil
  | condition target column comparison operands => exact operands.values
  | join target table aliasName plans kind cardinality => exact plans.values
  | getById source ids excluded => exact .cons ids .nil
  | insert target clocks entities => exact List.rel_append entities.values (.cons clocks .nil)
  | update target clocks entities => exact List.rel_append entities.values (.cons clocks .nil)

/-- Requests of the same shape are alike in the way in which their values are related. -/
theorem Alike.of_values (both : request.Alike tables S request')
    (values : List.Forall₂ R (request.values tables) (request'.values tables)) :
    request.Alike tables R request' := by
  cases both with
  | plain request => exact .plain request
  | condition target column comparison operands =>
    exact .condition target column comparison (operands.of_values values)
  | join target table aliasName plans kind cardinality =>
    exact .join target table aliasName (plans.of_values values) kind cardinality
  | getById source ids excluded =>
    cases values with
    | cons heads tails => exact .getById source heads excluded
  | insert target clocks entities =>
    obtain ⟨first, second⟩ := Outcome.forall₂_of_append entities.values.length_eq values
    cases second with
    | cons heads tails => exact .insert target heads (entities.of_values first)
  | update target clocks entities =>
    obtain ⟨first, second⟩ := Outcome.forall₂_of_append entities.values.length_eq values
    cases second with
    | cons heads tails => exact .update target heads (entities.of_values first)

/-- Runs of the same requests are supplied with related values. -/
theorem supplied_related (lists : List.Forall₂ (Alike tables R) requests requests') :
    List.Forall₂ R (supplied tables requests) (supplied tables requests') :=
  List.rel_flatMap lists fun _ _ both => both.values

/-- Runs of the same requests are alike in the way in which their values are related. -/
theorem alike_of_supplied (lists : List.Forall₂ (Alike tables S) requests requests')
    (values : List.Forall₂ R (supplied tables requests) (supplied tables requests')) :
    List.Forall₂ (Alike tables R) requests requests' := by
  induction lists with
  | nil => exact .nil
  | cons heads tails ih =>
    obtain ⟨first, second⟩ := Outcome.forall₂_of_append heads.values.length_eq values
    exact .cons (heads.of_values first) (ih second)

end Request

/-- The two values stand at the same place of two lists. -/
def SamePlace (values values' : List Value) (v v' : Value) : Prop :=
  ∃ place : Nat, values[place]? = some v ∧ values'[place]? = some v'

/-- The values of two lists of one length stand at the same places. -/
theorem forall₂_samePlace {values values' : List Value} (lengths : values.length = values'.length) :
    List.Forall₂ (SamePlace values values') values values' := by
  refine List.forall₂_iff_get.2 ⟨lengths, fun place inside inside' => ⟨place, ?_, ?_⟩⟩
  · exact List.getElem?_eq_getElem inside
  · exact List.getElem?_eq_getElem inside'

/-- Values never influence the text of a statement. Two runs that make the same requests with
different values get the same events, are refused for the same reasons, and get the same
texts; and the two values bound at one place of a statement are the ones the two runs were
supplied with at one and the same place. -/
theorem World.run_same_text (tables : List (TableDefinition E))
    {requests requests' : List (Request E)}
    (same : List.Forall₂ (Request.Alike tables fun _ _ => True) requests requests') :
    List.Forall₂
      (Answer.Alike
        (SamePlace (Request.supplied tables requests) (Request.supplied tables requests')))
      (run tables {} requests) (run tables {} requests') := by
  have lengths := (Request.supplied_related same).length_eq
  have traced := Request.alike_of_supplied same (forall₂_samePlace lengths)
  exact run_alike traced ⟨.nil, .nil, .nil⟩

namespace Sample

/-- The table of people, of whom a name may be known. -/
def people : TableDefinition (Option String) :=
  { name := "users", defaultAlias := "u", columns := ["name"], missing := []
    writable := [⟨"name", fun name => name.map .text⟩]
    stampCreated := fun _ name => name
    stampModified := fun _ name => name }

/-- People are looked up by name, and one is inserted. -/
def lookup (name : String) (seconds : Int) : List (Request (Option String)) :=
  [.plain (.newGateway 0 "u" default),
   .condition (.kept (.single 0)) "name" .equal (.single (.text name)),
   .plain (.get (.gateway (.single 0)) []),
   .insert (.single 0) ⟨seconds, 0⟩ (some name)]

/-- Looking up and inserting somebody else differs in values only. -/
theorem lookup_alike (name name' : String) (seconds seconds' : Int) :
    List.Forall₂ (Request.Alike [people] fun _ _ => True) (lookup name seconds)
      (lookup name' seconds') := by
  have named : EntityAlike [people] (fun _ _ => True) (some name) (some name') := by
    intro column member
    have only : column = ⟨"name", fun name => name.map .text⟩ := by
      simpa [people] using member
    rw [only]
    exact .some trivial
  refine .cons (.plain _) (.cons ?_ (.cons (.plain _) (.cons ?_ .nil)))
  · exact .condition _ "name" .equal (.single trivial)
  · exact .insert _ trivial named

end Sample

/-- Looking up and inserting Eve instead of Ada gets the same texts. -/
theorem World.run_same_text_lookup :
    List.Forall₂ (Request.Alike [Sample.people] fun _ _ => True) (Sample.lookup "Ada" 0)
        (Sample.lookup "Eve" 60) ∧
      List.Forall₂
        (Answer.Alike (SamePlace (Request.supplied [Sample.people] (Sample.lookup "Ada" 0))
          (Request.supplied [Sample.people] (Sample.lookup "Eve" 60))))
        (run [Sample.people] {} (Sample.lookup "Ada" 0))
        (run [Sample.people] {} (Sample.lookup "Eve" 60)) :=
  ⟨Sample.lookup_alike "Ada" "Eve" 0 60,
    run_same_text [Sample.people] (Sample.lookup_alike "Ada" "Eve" 0 60)⟩

end BoundSql
