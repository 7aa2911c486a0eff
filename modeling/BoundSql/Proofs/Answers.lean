import BoundSql.Proofs.Kept
import BoundSql.Proofs.Plain
import BoundSql.Proofs.ResultNames

/-!
# The statements of a program

A request that is answered with a query was answered with a finished statement of the kind it
asks for (`World.statement_of_step`). The filter of the statement is a kept one, or made of kept
ones; its joins are kept ones, so both have what an upkeep requires. An insertion or update assigns
the columns that its entity has a value for, and the time.
-/

namespace BoundSql

open Outcome

variable {E : Type} {tables : List (TableDefinition E)} {u : Upkeep}

namespace Statement

/-- The query is the finished statement in some style. -/
def Yields (s : Statement) (query : Query) : Prop :=
  ∃ finished style, s.assemble = .ok finished ∧ query = finished.bake style

/-- The block of the filter and the joins have what is required. -/
def Built (u : Upkeep) : Statement → Prop
  | select s =>
    (∃ filter, u.filter filter ∧ s.filter = filter.block) ∧ ∀ join ∈ s.joins, u.join join
  | insert _ => True
  | update s => ∃ filter, u.filter filter ∧ s.filter = filter.block
  | delete s => ∃ filter, u.filter filter ∧ s.filter = filter.block

end Statement

/-- The columns an entity has a value for, in the order of the definition. -/
def TableDefinition.columnsOf (definition : TableDefinition E) (entity : E) : List String :=
  definition.writable.filterMap fun column => (column.read entity).map fun _ => column.name

/-- A request asks for statements of one kind; one that writes an entity determines the columns. -/
def Request.AsksFor (tables : List (TableDefinition E)) : Request E → Statement → Prop
  | .plain (.get ..), .select _ => True
  | .plain (.delete _), .delete _ => True
  | .getById .., .select _ => True
  | .insert _ _ entity, .insert s => ∃ definition ∈ tables,
    s.assignments.map (·.column.text) = definition.columnsOf entity ++ ["created_at"]
  | .update _ _ entity, .update s => ∃ definition ∈ tables,
    s.assignments.map (·.column.text) = definition.columnsOf entity ++ ["modified_at"]
  | _, _ => False

/-- A selection that is replied was put together and finished. -/
theorem Reply.select_of_result {settings : Settings} {parts : Except QueryError Select}
    {query : Query} (replied : (ofSelect settings parts).result = .ok query) :
    ∃ s, parts = .ok s ∧ (Statement.select s).Yields query := by
  cases parts with
  | error cause => cases replied
  | ok s =>
    obtain ⟨finished, assembled, rfl⟩ := map_eq_ok.1 replied
    exact ⟨s, rfl, finished, settings.style, assembled, rfl⟩

namespace Assignment

/-- The column of an assignment, with the value. -/
def pair (a : Assignment) : String × Value := (a.column.text, a.value)

/-- An assignment is made exactly of its parts. -/
theorem make_eq_ok_iff {column qualifier : String} {value : Value} {a : Assignment} :
    make column qualifier value = .ok a ↔
      a.pair = (column, value) ∧ a.qualifier.text = qualifier := by
  constructor
  · intro made
    obtain ⟨name, read, made⟩ := bind_eq_ok.1 made
    obtain ⟨table, read', made⟩ := bind_eq_ok.1 made
    cases made
    exact ⟨by rw [pair, ColumnName.text_of_read read], TableName.text_of_read read'⟩
  · rintro ⟨same, rfl⟩
    cases same
    rw [make, ColumnName.read_text, TableName.read_text]
    rfl

/-- Assignments with one qualifier are made exactly of their columns and values, in order. -/
theorem mapM_make_eq_ok_iff {qualifier : String} {pairs : List (String × Value)}
    {made : List Assignment} :
    pairs.mapM (fun (column, value) => make column qualifier value) = .ok made ↔
      made.map pair = pairs ∧ ∀ a ∈ made, a.qualifier.text = qualifier := by
  simp only [mapM_eq_ok, make_eq_ok_iff, Prod.eta]
  induction made generalizing pairs with
  | nil => simp [eq_comm]
  | cons a rest ih =>
    rw [List.forall₂_cons_right_iff, List.map_cons, List.forall_mem_cons]
    constructor
    · rintro ⟨first, others, ⟨same, own⟩, later, rfl⟩
      obtain ⟨behind, owned⟩ := ih.1 later
      exact ⟨by rw [same, behind], own, owned⟩
    · rintro ⟨rfl, own, owned⟩
      exact ⟨a.pair, rest.map pair, ⟨rfl, own⟩, ih.2 ⟨rfl, owned⟩, rfl⟩

/-- Assignments that are made have the columns they were made with, in order. -/
theorem columns_of_mapM {qualifier : String} {pairs : List (String × Value)}
    {made : List Assignment}
    (done : pairs.mapM (fun (column, value) => make column qualifier value) = .ok made) :
    made.map (·.column.text) = pairs.map Prod.fst := by
  rw [← (mapM_make_eq_ok_iff.1 done).1, List.map_map]
  rfl

end Assignment

namespace TableDefinition

/-- The columns an entity has a value for and the values, in the order of the definition, and
behind them the column of a stamp and the time. -/
def written (definition : TableDefinition E) (stamp : String) (now : Instant) (entity : E) :
    List (String × Value) :=
  (definition.writable.filterMap fun column => (column.read entity).map (column.name, ·)) ++
    [(stamp, .instant now)]

variable (definition : TableDefinition E) (stamp : String) (now : Instant) (entity : E)

/-- What is written are the columns of the entity and the stamp. -/
theorem columns_written :
    (definition.written stamp now entity).map Prod.fst =
      definition.columnsOf entity ++ [stamp] := by
  rw [written, List.map_append, List.map_filterMap, columnsOf]
  simp only [Option.map_map, Function.comp_def]
  rfl

/-- Assigning what is written is assigning the attributes of the entity, and then the stamp. -/
theorem mapM_written (qualifier : String) :
    (definition.written stamp now entity).mapM
        (fun (column, value) => Assignment.make column qualifier value) = (do
      let attributes ← EntityGateway.assignments definition qualifier entity
      let last ← Assignment.make stamp qualifier (.instant now)
      return attributes ++ [last]) := by
  rw [written, List.mapM_append, EntityGateway.assignments]
  simp only [List.mapM_cons, List.mapM_nil, bind_assoc, pure_bind]

end TableDefinition

namespace EntityGateway

variable {g : EntityGateway E}

/-- An insertion assigns what is written, qualified with the name of the definition. -/
theorem insert_eq_mapM {now : Instant} {entity : E} :
    g.insert now entity = (do
      let made ← (g.definition.written "created_at" now entity).mapM
        fun (column, value) => Assignment.make column g.definition.name value
      let draft ← Insert.assemble { table := g.table, assignments := made }
      return (draft.bake g.settings.style, g.definition.stampCreated now entity)) := by
  simp only [TableDefinition.mapM_written, bind_assoc, pure_bind]
  rfl

/-- An update assigns what is written, qualified with the alias. -/
theorem update_eq_mapM {now : Instant} {entity : E} :
    g.update now entity = (do
      let made ← (g.definition.written "modified_at" now entity).mapM
        fun (column, value) => Assignment.make column g.table.aliasName.text value
      let draft ← Update.assemble
        { table := g.table, assignments := made, filter := g.filter.block }
      return (draft.bake g.settings.style, g.definition.stampModified now entity)) := by
  simp only [TableDefinition.mapM_written, bind_assoc, pure_bind]
  rfl

theorem statement_of_get (kept : g.Kept u tables) {excluded : List String} {query : Query}
    (replied : (g.get excluded).result = .ok query) :
    ∃ s, (Statement.select s).Built u ∧ (Statement.select s).Yields query := by
  obtain ⟨s, parts, yields⟩ := Reply.select_of_result replied
  obtain ⟨columns, _, parts⟩ := bind_eq_ok.1 parts
  cases parts
  exact ⟨_, ⟨⟨g.filter, kept.filter, rfl⟩, kept.joins⟩, yields⟩

theorem statement_of_getById (kept : g.Kept u tables) {id : Value} {excluded : List String}
    {query : Query} (replied : (g.getById id excluded).result = .ok query) :
    ∃ s, (Statement.select s).Built u ∧ (Statement.select s).Yields query := by
  obtain ⟨s, parts, yields⟩ := Reply.select_of_result replied
  obtain ⟨columns, _, parts⟩ := bind_eq_ok.1 parts
  obtain ⟨identity, accepted, parts⟩ := bind_eq_ok.1 parts
  cases parts
  have required := u.step (u.empty _) (by nofun) accepted
  exact ⟨_, ⟨⟨identity, required, rfl⟩, kept.joins⟩, yields⟩

/-- An insertion assigns the columns of the entity, and the time of its creation. -/
theorem statement_of_insert {now : Instant} {entity written : E} {query : Query}
    (inserted : g.insert now entity = .ok (query, written)) :
    ∃ s : Insert, (Statement.insert s).Yields query ∧ s.assignments.map (·.column.text) =
      g.definition.columnsOf entity ++ ["created_at"] := by
  rw [insert_eq_mapM] at inserted
  obtain ⟨made, assigned, inserted⟩ := bind_eq_ok.1 inserted
  obtain ⟨finished, assembled, inserted⟩ := bind_eq_ok.1 inserted
  cases inserted
  refine ⟨_, ⟨finished, _, assembled, rfl⟩, ?_⟩
  rw [Assignment.columns_of_mapM assigned, TableDefinition.columns_written]

/-- An update assigns the columns of the entity, and the time of the change. -/
theorem statement_of_update (kept : g.Kept u tables) {now : Instant} {entity written : E}
    {query : Query} (updated : g.update now entity = .ok (query, written)) :
    ∃ s : Update, (Statement.update s).Built u ∧ (Statement.update s).Yields query ∧
      s.assignments.map (·.column.text) = g.definition.columnsOf entity ++ ["modified_at"] := by
  rw [update_eq_mapM] at updated
  obtain ⟨made, assigned, updated⟩ := bind_eq_ok.1 updated
  obtain ⟨finished, assembled, updated⟩ := bind_eq_ok.1 updated
  cases updated
  refine ⟨_, ⟨g.filter, kept.filter, rfl⟩, ⟨finished, _, assembled, rfl⟩, ?_⟩
  rw [Assignment.columns_of_mapM assigned, TableDefinition.columns_written]

end EntityGateway

namespace CompositeGateway

variable {c : CompositeGateway E}

/-- Filters nested one after the other into one preserve what is required. -/
theorem required_foldlM {combinator : Combinator} {others : List Filter} {before combined : Filter}
    (had : u.filter before) (each : ∀ filter ∈ others, u.filter filter)
    (made : others.foldlM (fun combined other =>
      (combined.addCombinator combinator).map (·.addGroup other)) before = .ok combined) :
    u.filter combined := by
  induction others generalizing before with
  | nil =>
    cases made
    exact had
  | cons other rest ih =>
    rw [List.foldlM_cons] at made
    obtain ⟨_, accepted, made⟩ := bind_eq_ok.1 made
    obtain ⟨linked, asked, rfl⟩ := map_eq_ok.1 accepted
    have step : before.step (.combinator combinator) = .ok linked := asked
    have waiting := u.step had (by nofun) step
    have grown := u.addGroup waiting (each other List.mem_cons_self)
    exact ih grown (fun filter member => each filter (List.mem_cons_of_mem other member)) made

/-- Filters that are combined have what is required if each of them has it. -/
theorem required_combine {aliasName : TableName} {combinator : Combinator} {filters : List Filter}
    {combined : Filter} (each : ∀ filter ∈ filters, u.filter filter)
    (made : combine aliasName combinator filters = .ok combined) : u.filter combined := by
  match filters with
  | [] =>
    cases made
    exact u.empty aliasName
  | [_] =>
    cases made
    exact each _ List.mem_cons_self
  | first :: next :: others =>
    have start := u.addGroup (u.empty aliasName) (each first List.mem_cons_self)
    exact required_foldlM start
      (fun filter member => each filter (List.mem_cons_of_mem first member)) made

/-- The filter of a composite has what is required of the kept ones. -/
theorem Kept.combinedFilter (kept : c.Kept u tables) {combined : Filter}
    (made : c.combinedFilter = .ok combined) : u.filter combined := by
  refine required_combine (fun filter member => ?_) made
  have inside := (List.mem_filter.1 member).1
  rcases List.mem_append.1 inside with among | own
  · split at among
    · obtain ⟨g, there, rfl⟩ := List.mem_map.1 among
      exact (kept.members g there).filter
    · cases among
  · rw [List.mem_singleton.1 own]
    exact kept.base.filter

theorem statement_of_get (kept : c.Kept u tables) {excluded : List String} {query : Query}
    (replied : (c.get excluded).result = .ok query) :
    ∃ s, (Statement.select s).Built u ∧ (Statement.select s).Yields query := by
  obtain ⟨s, parts, yields⟩ := Reply.select_of_result replied
  obtain ⟨columns, _, parts⟩ := bind_eq_ok.1 parts
  obtain ⟨combined, made, parts⟩ := bind_eq_ok.1 parts
  cases parts
  exact ⟨_, ⟨⟨combined, Kept.combinedFilter kept made, rfl⟩, kept.base.joins⟩, yields⟩

theorem statement_of_getById (kept : c.Kept u tables) {id : Value} {excluded : List String}
    {query : Query} (replied : (c.getById id excluded).result = .ok query) :
    ∃ s, (Statement.select s).Built u ∧ (Statement.select s).Yields query := by
  obtain ⟨s, parts, yields⟩ := Reply.select_of_result replied
  obtain ⟨columns, _, parts⟩ := bind_eq_ok.1 parts
  obtain ⟨identity, accepted, parts⟩ := bind_eq_ok.1 parts
  cases parts
  have required := u.step (u.empty _) (by nofun) accepted
  exact ⟨_, ⟨⟨identity, required, rfl⟩, kept.base.joins⟩, yields⟩

end CompositeGateway

namespace World

variable {w : World E} {query : Query}

/-- A change is not answered with a query. -/
theorem result_attempt_ne {changed : Except QueryError (World E)} :
    (w.attempt changed).2.result ≠ .ok (some query) := by
  cases changed <;> simp [attempt]

/-- A query is answered about something that exists. -/
theorem exists_of_ofReply? {reply? : Option (Reply Query)}
    (answered : (Answer.ofReply? reply?).result = .ok (some query)) :
    ∃ reply, reply? = some reply ∧ reply.result = .ok query := by
  cases reply? with
  | none => simp [Answer.ofReply?] at answered
  | some reply =>
    obtain ⟨_, result, same⟩ := map_eq_ok.1 answered
    cases same
    exact ⟨reply, rfl, result⟩

/-- A query about a gateway is answered by a kept one. -/
theorem exists_gateway (kept : w.Kept u tables) {place : Place}
    {reply : EntityGateway E → Reply Query}
    (answered : (Answer.ofReply? ((w.gateway? place).map reply)).result = .ok (some query)) :
    ∃ g : EntityGateway E, g.Kept u tables ∧ (reply g).result = .ok query := by
  obtain ⟨_, found, replied⟩ := exists_of_ofReply? answered
  obtain ⟨g, there, rfl⟩ := Option.map_eq_some_iff.1 found
  exact ⟨g, kept.gateway there, replied⟩

/-- A query about a composite is answered by a kept one. -/
theorem exists_composite (kept : w.Kept u tables) {number : Nat}
    {reply : CompositeGateway E → Reply Query}
    (answered : (Answer.ofReply? (w.composites[number]?.map reply)).result = .ok (some query)) :
    ∃ c : CompositeGateway E, c.Kept u tables ∧ (reply c).result = .ok query := by
  obtain ⟨_, found, replied⟩ := exists_of_ofReply? answered
  obtain ⟨c, there, rfl⟩ := Option.map_eq_some_iff.1 found
  exact ⟨c, kept.composites c (List.mem_of_getElem? there), replied⟩

/-- A selection by the kept filters is answered with a statement of kept parts. -/
theorem statement_of_get (kept : w.Kept u tables) {source : Source} {excluded : List String}
    (answered : (w.get excluded source).result = .ok (some query)) :
    ∃ s, (Statement.select s).Built u ∧ (Statement.select s).Yields query := by
  cases source with
  | gateway place =>
    obtain ⟨g, required, replied⟩ := exists_gateway kept answered
    exact EntityGateway.statement_of_get required replied
  | composite number =>
    obtain ⟨c, required, replied⟩ := exists_composite kept answered
    exact CompositeGateway.statement_of_get required replied

/-- A selection by identity is answered with a statement of kept parts. -/
theorem statement_of_getById (kept : w.Kept u tables) {source : Source} {id : Value}
    {excluded : List String}
    (answered : (w.getById id excluded source).result = .ok (some query)) :
    ∃ s, (Statement.select s).Built u ∧ (Statement.select s).Yields query := by
  cases source with
  | gateway place =>
    obtain ⟨g, required, replied⟩ := exists_gateway kept answered
    exact EntityGateway.statement_of_getById required replied
  | composite number =>
    obtain ⟨c, required, replied⟩ := exists_composite kept answered
    exact CompositeGateway.statement_of_getById required replied

/-- A request that is answered with a query is answered with a finished statement of the kind it
asks for, whose filter and joins have what is required. -/
theorem statement_of_step (kept : w.Kept u tables) {request : Request E}
    (answered : (w.step tables request).2.result = .ok (some query)) :
    ∃ s : Statement, s.Built u ∧ s.Yields query ∧ request.AsksFor tables s := by
  cases request with
  | plain request =>
    cases request with
    | get source excluded =>
      obtain ⟨s, built, yields⟩ := statement_of_get kept answered
      exact ⟨.select s, built, yields, trivial⟩
    | delete target =>
      obtain ⟨g, required, finished⟩ := exists_gateway kept answered
      cases finished
      exact ⟨.delete _, ⟨g.filter, required.filter, rfl⟩, ⟨_, _, rfl, rfl⟩, trivial⟩
    | group target source | setFilter target source =>
      simp only [step, perform] at answered
      split at answered
      · simp [Answer.ofReply?] at answered
      · exact absurd answered result_attempt_ne
    | _ => exact absurd answered result_attempt_ne
  | condition target column comparison operand => exact absurd answered result_attempt_ne
  | join target table aliasName plan kind cardinality => exact absurd answered result_attempt_ne
  | getById source id excluded =>
    obtain ⟨s, built, yields⟩ := statement_of_getById kept answered
    exact ⟨.select s, built, yields, trivial⟩
  | insert target now entity =>
    obtain ⟨g, required, finished⟩ := exists_gateway kept answered
    obtain ⟨⟨query, written⟩, inserted, rfl⟩ := map_eq_ok.1 finished
    obtain ⟨s, yields, columns⟩ := EntityGateway.statement_of_insert inserted
    exact ⟨.insert s, trivial, yields, g.definition, required.known, columns⟩
  | update target now entity =>
    obtain ⟨g, required, finished⟩ := exists_gateway kept answered
    obtain ⟨⟨query, written⟩, updated, rfl⟩ := map_eq_ok.1 finished
    obtain ⟨s, built, yields, columns⟩ := EntityGateway.statement_of_update required updated
    exact ⟨.update s, built, yields, g.definition, required.known, columns⟩

end World

end BoundSql
