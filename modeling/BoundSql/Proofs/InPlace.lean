import BoundSql.Proofs.Runs

/-!
# Changes in place

Filters, orderings, joins, blocks and entities are changed in place, field by field. A procedure
that is refused halfway leaves behind what it has changed so far. The procedures here work in that
way. Each of them equals a change that takes place at once, or not at all
(`Procedure.atomically`): whatever can refuse it is asked before the first field is touched. So a
request that is carried out in place comes to the same as `World.step` (`World.stepInPlace_eq`).
-/

namespace BoundSql

/-- A procedure that works on a state in place. What it has changed stays, also if it is refused
later on. -/
abbrev Procedure (σ α : Type) := EStateM QueryError σ α

namespace Procedure

variable {σ τ α : Type}

/-- Goes on with the result of a computation, or is refused for its reason. -/
def check (outcome : Except QueryError α) : Procedure σ α :=
  match outcome with
  | .ok result => pure result
  | .error cause => throw cause

/-- Takes place at once, or not at all. -/
def atomically (step : σ → Except QueryError (α × σ)) : Procedure σ α := fun state =>
  match step state with
  | .ok (result, next) => .ok result next
  | .error cause => .error cause state

/-- Changes the state at once, or not at all. -/
def atOnce (step : σ → Except QueryError σ) : Procedure σ Unit :=
  atomically fun state => (step state).map ((), ·)

/-- Works on a part of the state. -/
def within (part : σ → τ) (replace : σ → τ → σ) (procedure : Procedure τ α) : Procedure σ α :=
  fun state =>
    match procedure (part state) with
    | .ok result next => .ok result (replace state next)
    | .error cause next => .error cause (replace state next)

/-- Works on the item with a number, if there is one. -/
def onItem (number : Nat) (procedure : Procedure τ Unit) : Procedure (List τ) Unit := fun items =>
  match items[number]? with
  | none => .ok () items
  | some item =>
    match procedure item with
    | .ok _ next => .ok () (items.set number next)
    | .error cause next => .error cause (items.set number next)

/-- Works on every item, one after the other. -/
def onEach (procedure : Procedure τ Unit) : Procedure (List τ) Unit
  | [] => .ok () []
  | item :: rest =>
    match procedure item with
    | .error cause next => .error cause (next :: rest)
    | .ok _ next =>
      match onEach procedure rest with
      | .error cause others => .error cause (next :: others)
      | .ok _ others => .ok () (next :: others)

/-- What takes place at once, or not at all, leaves no trace if it is refused. -/
theorem eq_of_refused {step : σ → Except QueryError (α × σ)} {state after : σ}
    {cause : QueryError} (refused : atomically step state = .error cause after) :
    after = state := by
  unfold atomically at refused
  split at refused
  · cases refused
  · cases refused
    rfl

/-- Without a check the state is changed at once. -/
theorem modify_eq_atOnce (step : σ → σ) : modify step = atOnce (.ok <| step ·) := rfl

/-- What takes place at once after a check takes place at once. -/
theorem check_bind {β : Type} (outcome : Except QueryError α)
    (step : α → σ → Except QueryError (β × σ)) :
    (check outcome >>= fun result => atomically (step result)) =
      atomically fun state => outcome >>= fun result => step result state := by
  cases outcome <;> rfl

/-- A part is changed at once with the whole, if it can be put back in its place. -/
theorem within_atOnce {part : σ → τ} {replace : σ → τ → σ}
    (same : ∀ state, replace state (part state) = state) (step : τ → Except QueryError τ) :
    within part replace (atOnce step) =
      atOnce fun state => (step (part state)).map (replace state) := by
  funext state
  simp only [within, atOnce, atomically]
  cases step (part state) <;> simp [Except.map, same]

/-- The change of an item puts the changed one in its place. -/
theorem changeAt_eq (step : τ → Except QueryError τ) (items : List τ) (number : Nat) :
    changeAt step items number =
      match items[number]? with
      | none => .ok items
      | some item => (step item).map (items.set number) := by
  induction items generalizing number with
  | nil => rfl
  | cons item rest ih =>
    cases number with
    | zero => rfl
    | succ number =>
      rw [changeAt, ih, List.getElem?_cons_succ]
      cases rest[number]? with
      | none => rfl
      | some found => cases shape : step found <;> simp [shape, Except.map]

/-- An item that is put back in its place leaves the list as it was. -/
theorem set_of_getElem? {items : List τ} {number : Nat} {item : τ}
    (found : items[number]? = some item) : items.set number item = items := by
  obtain ⟨inside, rfl⟩ := List.getElem?_eq_some_iff.1 found
  exact List.set_getElem_self inside

/-- An item is changed at once with the whole list. -/
theorem onItem_atOnce (number : Nat) (step : τ → Except QueryError τ) :
    onItem number (atOnce step) = atOnce fun items => changeAt step items number := by
  funext items
  simp only [onItem, atOnce, atomically, changeAt_eq]
  cases found : items[number]? with
  | none => rfl
  | some item => cases shape : step item <;> simp [shape, Except.map, set_of_getElem? found]

/-- Items that are changed without a check are changed at once. -/
theorem onEach_modify (step : τ → τ) :
    onEach (modify step) = atOnce fun items => .ok (items.map step) := by
  funext items
  induction items with
  | nil => rfl
  | cons item rest ih =>
    have first : (modify step : Procedure τ Unit) item = .ok () (step item) := rfl
    rw [onEach, first, ih]
    rfl

/-- What comes behind a check is done exactly if the check is passed. -/
theorem check_bind_eq_ok {β : Type} {outcome : Except QueryError α} {next : α → Procedure σ β}
    {state after : σ} {result : β} :
    (check outcome >>= next) state = .ok result after ↔
      ∃ a, outcome = .ok a ∧ next a state = .ok result after := by
  cases outcome with
  | error cause =>
    constructor
    · rintro ⟨⟩
    · rintro ⟨_, ⟨⟩, _⟩
  | ok a =>
    constructor
    · exact fun done => ⟨a, rfl, done⟩
    · rintro ⟨_, ⟨⟩, done⟩
      exact done

/-- What takes place at once is done exactly if the change is accepted. -/
theorem atOnce_eq_ok {step : σ → Except QueryError σ} {state after : σ} :
    atOnce step state = .ok () after ↔ step state = .ok after := by
  unfold atOnce atomically
  cases shape : step state <;> simp [shape, Except.map]

/-- What is done to a part puts the changed part in its place. -/
theorem within_eq_ok {part : σ → τ} {replace : σ → τ → σ} {procedure : Procedure τ Unit}
    {state after : σ}
    (done : within part replace procedure state = .ok () after) :
    ∃ next, procedure (part state) = .ok () next ∧ replace state next = after := by
  unfold within at done
  split at done
  · next next changed =>
    cases done
    exact ⟨next, changed, rfl⟩
  · cases done

/-- What is done to an item puts the changed one in its place, if there is one. -/
theorem onItem_eq_ok {number : Nat} {procedure : Procedure τ Unit} {items after : List τ}
    (done : onItem number procedure items = .ok () after) :
    after = items ∨ ∃ item next,
      item ∈ items ∧ procedure item = .ok () next ∧ after = items.set number next := by
  unfold onItem at done
  split at done
  · cases done
    exact .inl rfl
  · next item found =>
    split at done
    · next next changed =>
      cases done
      exact .inr ⟨item, next, List.mem_of_getElem? found, changed, rfl⟩
    · cases done

end Procedure

open Procedure (check atomically atOnce within onItem onEach)

namespace Block

/-- Appends a part: the link is checked, and a block without parts is left out. -/
def pushInPlace (link : Option Combinator) (part : Part) : Procedure Block Unit := do
  let block ← get
  match block.isEmpty, link with
  | true, some combinator => throw (.leadingCombinator combinator)
  | false, none => throw .missingCombinator
  | _, _ => pure ()
  unless vacuous part do
    modify (·.append link part)

/-- A part is pushed at once, or not at all. -/
theorem pushInPlace_eq (link : Option Combinator) (part : Part) :
    pushInPlace link part = atOnce (·.push link part) := by
  funext block
  unfold pushInPlace atOnce atomically push
  cases block <;> cases link <;> cases vacuous part <;> rfl

end Block

namespace Filter

/-- Takes the requested combinator out of a filter. -/
def takePending : Procedure Filter (Option Combinator) :=
  modifyGet fun filter => (filter.pending, { filter with pending := none })

/-- Adds a condition: it is checked, the request is taken, and the block grows. -/
def addConditionInPlace (column : String) (comparison : Comparison) (operand : Operand) :
    Procedure Filter Unit := do
  let filter ← get
  let condition ← check (Condition.make filter.aliasName.text column comparison operand)
  let requested ← takePending
  modify fun filter => { filter with block := filter.block.addCondition requested condition }

/-- Requests a combinator after two checks. -/
def addCombinatorInPlace (combinator : Combinator) : Procedure Filter Unit := do
  let filter ← get
  if filter.isEmpty then
    throw (.filterStart filter.aliasName combinator)
  if let some kept := filter.pending then
    throw (.combinatorPending filter.aliasName kept)
  modify fun filter => { filter with pending := some combinator }

/-- Nests the block of another filter: if it has parts, the request is taken, and the block
grows. -/
def addGroupInPlace (other : Filter) : Procedure Filter Unit := do
  if other.isEmpty then
    return
  let requested ← takePending
  modify fun filter => { filter with block := filter.block.addGroup requested other.block }

/-- Removes the parts, then the request. -/
def clearInPlace : Procedure Filter Unit := do
  modify fun filter => { filter with block := .empty }
  modify fun filter => { filter with pending := none }

/-- Takes a step in place. -/
def stepInPlace : FilterStep → Procedure Filter Unit
  | .condition column comparison operand => addConditionInPlace column comparison operand
  | .combinator combinator => addCombinatorInPlace combinator
  | .group other => addGroupInPlace other
  | .clear => clearInPlace

/-- A step is taken at once, or not at all. In particular a refused condition leaves the
request. -/
theorem stepInPlace_eq (step : FilterStep) : stepInPlace step = atOnce (·.step step) := by
  funext filter
  cases step with
  | condition column comparison operand =>
    have checked : stepInPlace (.condition column comparison operand) filter =
        (check (Condition.make filter.aliasName.text column comparison operand) >>= fun c => do
          let requested ← takePending
          modify fun filter => { filter with block := filter.block.addCondition requested c })
          filter := rfl
    rw [checked]
    simp only [atOnce, atomically, Filter.step, addCondition]
    cases Condition.make filter.aliasName.text column comparison operand <;> rfl
  | combinator combinator =>
    obtain ⟨aliasName, block, pending⟩ := filter
    cases block <;> cases pending <;> rfl
  | group other =>
    obtain ⟨aliasName, block, pending⟩ := other
    cases block <;> rfl
  | clear => rfl

end Filter

namespace OrderBy

/-- Adds a column after it is checked. -/
def addInPlace (column : String) (order : SortOrder) : Procedure OrderBy Unit := do
  let column ← check (ColumnName.read column)
  modify fun ordering => { ordering with entries := ordering.entries ++ [(column, order)] }

/-- A column is added at once, or not at all. -/
theorem addInPlace_eq (column : String) (order : SortOrder) :
    addInPlace column order = atOnce (·.add column order) := by
  funext ordering
  unfold addInPlace atOnce atomically add
  cases ColumnName.read column <;> rfl

end OrderBy

variable {E : Type}

namespace EntityGateway

/-- Changes what a gateway keeps in place. -/
def changeInPlace : GatewayChange → Procedure (EntityGateway E) Unit
  | .filter step => within (·.filter) (fun g filter => { g with filter }) (Filter.stepInPlace step)
  | .nest aliasName steps => do
    let other ← check (Filter.build aliasName steps)
    within (·.filter) (fun g filter => { g with filter }) (Filter.addGroupInPlace other)
  | .join join => modify fun g => { g with joins := g.joins ++ [join] }
  | .orderBy column order =>
    within (·.ordering) (fun g ordering => { g with ordering }) (OrderBy.addInPlace column order)
  | .clearOrdering => modify fun g => { g with ordering := g.ordering.clear }
  | .clearFilter => within (·.filter) (fun g filter => { g with filter }) Filter.clearInPlace
  | .setFilter filter => modify fun g => { g with filter }
  | .setOrdering ordering => modify fun g => { g with ordering }

/-- A gateway is changed at once, or not at all. -/
theorem changeInPlace_eq (gatewayChange : GatewayChange) :
    changeInPlace gatewayChange = atOnce fun g : EntityGateway E => g.change gatewayChange := by
  have onFilter (step : FilterStep) :
      within (·.filter) (fun (g : EntityGateway E) filter => { g with filter })
          (Filter.stepInPlace step) =
        atOnce fun g => (g.filter.step step).map fun filter => { g with filter } := by
    rw [Filter.stepInPlace_eq, Procedure.within_atOnce fun _ => rfl]
  cases gatewayChange with
  | filter step => exact onFilter step
  | nest aliasName steps =>
    have nested : ∀ other : Filter, within (·.filter) (fun (g : EntityGateway E) filter =>
        { g with filter }) (Filter.addGroupInPlace other) =
          atOnce fun g => .ok { g with filter := g.filter.addGroup other } := fun other =>
      onFilter (.group other)
    simp only [changeInPlace, nested, atOnce, Procedure.check_bind, change]
    cases Filter.build aliasName steps <;> rfl
  | join join => rfl
  | orderBy column order =>
    rw [changeInPlace, OrderBy.addInPlace_eq, Procedure.within_atOnce fun _ => rfl]
    rfl
  | clearOrdering => rfl
  | clearFilter => exact onFilter .clear
  | setFilter filter => rfl
  | setOrdering ordering => rfl

/-- Inserts an entity: the statement is finished first, then the entity is stamped. -/
def insertInPlace (g : EntityGateway E) (now : Instant) : Procedure E Query := do
  let entity ← getThe E
  let attributes ← check (assignments g.definition g.definition.name entity)
  let stamp ← check (Assignment.make "created_at" g.definition.name (.instant now))
  let draft ← check (Insert.assemble { table := g.table, assignments := attributes ++ [stamp] })
  let query := draft.bake g.settings.style
  modify (g.definition.stampCreated now)
  return query

/-- An entity is inserted and stamped at once, or not at all. -/
theorem insertInPlace_eq (g : EntityGateway E) (now : Instant) :
    g.insertInPlace now = atomically (g.insert now) := by
  funext entity
  have checked : g.insertInPlace now entity =
      ((check (assignments g.definition g.definition.name entity) >>= fun attributes =>
        check (Assignment.make "created_at" g.definition.name (.instant now)) >>= fun stamp =>
          check (Insert.assemble { table := g.table, assignments := attributes ++ [stamp] }) >>=
            fun draft => atomically fun entity => .ok
              (draft.bake g.settings.style, g.definition.stampCreated now entity)) :
        Procedure E Query) entity := rfl
  simp only [checked, Procedure.check_bind]
  rfl

/-- Updates to an entity: the statement is finished first, then the entity is stamped. -/
def updateInPlace (g : EntityGateway E) (now : Instant) : Procedure E Query := do
  let entity ← getThe E
  let attributes ← check (assignments g.definition g.table.aliasName.text entity)
  let stamp ← check (Assignment.make "modified_at" g.table.aliasName.text (.instant now))
  let draft ← check (Update.assemble
    { table := g.table, assignments := attributes ++ [stamp], filter := g.filter.block })
  let query := draft.bake g.settings.style
  modify (g.definition.stampModified now)
  return query

/-- An update is made and its entity stamped at once, or not at all. -/
theorem updateInPlace_eq (g : EntityGateway E) (now : Instant) :
    g.updateInPlace now = atomically (g.update now) := by
  funext entity
  have checked : g.updateInPlace now entity =
      ((check (assignments g.definition g.table.aliasName.text entity) >>= fun attributes =>
        check (Assignment.make "modified_at" g.table.aliasName.text (.instant now)) >>= fun stamp =>
          check (Update.assemble
            { table := g.table, assignments := attributes ++ [stamp], filter := g.filter.block }) >>=
            fun draft => atomically fun entity => .ok
              (draft.bake g.settings.style, g.definition.stampModified now entity)) :
        Procedure E Query) entity := rfl
  simp only [checked, Procedure.check_bind]
  rfl

end EntityGateway

namespace CompositeGateway

/-- Clears the composite's own filter, then those of the members. -/
def clearFiltersInPlace : Procedure (CompositeGateway E) Unit := do
  within (·.base) (fun c base => { c with base }) (EntityGateway.changeInPlace .clearFilter)
  within (·.members) (fun c members => { c with members })
    (onEach (modify fun member => { member with filter := member.filter.clear }))

/-- All filters are cleared at once. -/
theorem clearFiltersInPlace_eq :
    clearFiltersInPlace = atOnce fun c : CompositeGateway E => .ok c.clearFilters := by
  unfold clearFiltersInPlace
  rw [EntityGateway.changeInPlace_eq, Procedure.onEach_modify,
    Procedure.within_atOnce fun _ => rfl, Procedure.within_atOnce fun _ => rfl]
  rfl

end CompositeGateway

namespace World

/-- Changes the composite with a number in place. -/
def onComposite (composite : Nat) (procedure : Procedure (CompositeGateway E) Unit) :
    Procedure (World E) Unit :=
  within (·.composites) (fun w composites => { w with composites }) (onItem composite procedure)

/-- A composite is changed at once with its world. -/
theorem onComposite_atOnce (composite : Nat)
    (step : CompositeGateway E → Except QueryError (CompositeGateway E)) :
    onComposite composite (atOnce step) = atOnce (·.changeComposite composite step) := by
  rw [onComposite, Procedure.onItem_atOnce, Procedure.within_atOnce fun _ => rfl]
  rfl

/-- Changes what the gateway at a place keeps in place. -/
def changeGatewayInPlace (place : Place) (gatewayChange : GatewayChange) :
    Procedure (World E) Unit :=
  match place with
  | .single number =>
    within (·.gateways) (fun w gateways => { w with gateways })
      (onItem number (EntityGateway.changeInPlace gatewayChange))
  | .base composite =>
    onComposite composite
      (within (·.base) (fun c base => { c with base }) (EntityGateway.changeInPlace gatewayChange))
  | .member composite number =>
    onComposite composite
      (within (·.members) (fun c members => { c with members })
        (onItem number (EntityGateway.changeInPlace gatewayChange)))

/-- A gateway is changed at once with its world. -/
theorem changeGatewayInPlace_eq (place : Place) (gatewayChange : GatewayChange) :
    changeGatewayInPlace place gatewayChange =
      atOnce fun w : World E => w.changeGateway place gatewayChange := by
  cases place with
  | single number =>
    rw [changeGatewayInPlace, EntityGateway.changeInPlace_eq, Procedure.onItem_atOnce,
      Procedure.within_atOnce fun _ => rfl]
    rfl
  | base composite =>
    rw [changeGatewayInPlace, EntityGateway.changeInPlace_eq, Procedure.within_atOnce fun _ => rfl,
      onComposite_atOnce]
    rfl
  | member composite number =>
    rw [changeGatewayInPlace, EntityGateway.changeInPlace_eq, Procedure.onItem_atOnce,
      Procedure.within_atOnce fun _ => rfl, onComposite_atOnce]
    rfl

/-- Takes a step of the filter at a place in place. -/
def stepFilterInPlace (place : FilterPlace) (step : FilterStep) : Procedure (World E) Unit :=
  match place with
  | .free number =>
    within (·.filters) (fun w filters => { w with filters })
      (onItem number (Filter.stepInPlace step))
  | .kept place => changeGatewayInPlace place (.filter step)

/-- A filter takes a step at once with its world. -/
theorem stepFilterInPlace_eq (place : FilterPlace) (step : FilterStep) :
    stepFilterInPlace place step = atOnce fun w : World E => w.stepFilter place step := by
  cases place with
  | free number =>
    rw [stepFilterInPlace, Filter.stepInPlace_eq, Procedure.onItem_atOnce,
      Procedure.within_atOnce fun _ => rfl]
    rfl
  | kept place => exact changeGatewayInPlace_eq place (.filter step)

/-- Puts a filter in the place of another one. -/
def replaceFilterInPlace (place : FilterPlace) (filter : Filter) : Procedure (World E) Unit :=
  match place with
  | .free number =>
    within (·.filters) (fun w filters => { w with filters }) (onItem number (modify fun _ => filter))
  | .kept place => changeGatewayInPlace place (.setFilter filter)

/-- A filter is replaced at once with its world. -/
theorem replaceFilterInPlace_eq (place : FilterPlace) (filter : Filter) :
    replaceFilterInPlace place filter =
      atOnce fun w : World E => w.replaceFilter place filter := by
  cases place with
  | free number =>
    rw [replaceFilterInPlace, Procedure.modify_eq_atOnce, Procedure.onItem_atOnce,
      Procedure.within_atOnce fun _ => rfl]
    rfl
  | kept place => exact changeGatewayInPlace_eq place (.setFilter filter)

/-- The world after a procedure, refused or not, and the answer. -/
def carryOut (w : World E) (procedure : Procedure (World E) Unit) : World E × Answer :=
  match procedure w with
  | .ok _ next => (next, ⟨[], .ok none⟩)
  | .error cause next => (next, ⟨[], .error cause⟩)

/-- What is carried out at once is an attempt. -/
theorem carryOut_atOnce (w : World E) (step : World E → Except QueryError (World E)) :
    w.carryOut (atOnce step) = w.attempt (step w) := by
  simp only [carryOut, atOnce, atomically, attempt]
  cases step w <;> rfl

/-- Carries out a request without values in place. -/
def performInPlace (tables : List (TableDefinition E)) (w : World E) :
    PlainRequest → World E × Answer
  | .newFilter aliasName =>
    w.carryOut do
      let filter ← check (Filter.make aliasName)
      modify fun w => { w with filters := w.filters ++ [filter] }
  | .newGateway table aliasName settings =>
    w.carryOut do
      let opened ← check (openGateway tables settings (table, aliasName))
      modify fun w => { w with gateways := w.gateways ++ opened }
  | .newComposite base members settings =>
    w.carryOut do
      let bases ← check (openGateway tables settings base)
      let opened ← check (members.mapM (openGateway tables settings))
      modify fun w => { w with composites := w.composites ++ composed bases opened.flatten }
  | .combinator target combinator => w.carryOut (stepFilterInPlace target (.combinator combinator))
  | .group target source =>
    match w.filter? source with
    | none => (w, .ofReply? none)
    | some other => w.carryOut (stepFilterInPlace target (.group other))
  | .clearFilter target => w.carryOut (stepFilterInPlace target .clear)
  | .setFilter target source =>
    match w.filter? source with
    | none => (w, .ofReply? none)
    | some other => w.carryOut (replaceFilterInPlace target other)
  | .orderBy target column order => w.carryOut (changeGatewayInPlace target (.orderBy column order))
  | .clearOrdering target => w.carryOut (changeGatewayInPlace target .clearOrdering)
  | .newOrdering target aliasName =>
    w.carryOut do
      let ordering ← check (OrderBy.make aliasName)
      changeGatewayInPlace target (.setOrdering ordering)
  | .combination composite combination =>
    w.carryOut (onComposite composite (modify fun c => { c with combination }))
  | .clearFilters composite =>
    w.carryOut (onComposite composite CompositeGateway.clearFiltersInPlace)
  | .get source excluded => (w, w.get excluded source)
  | .delete target => (w, w.write target (.ok ·.delete))

/-- Carries out a request in place. Selections and writes read the world alone. -/
def stepInPlace (tables : List (TableDefinition E)) (w : World E) : Request E → World E × Answer
  | .plain request => w.performInPlace tables request
  | .condition target column comparison operand =>
    w.carryOut (stepFilterInPlace target (.condition column comparison operand))
  | .join target table aliasName condition kind cardinality =>
    w.carryOut do
      let block ← check condition.build
      let join ← check (Join.make table aliasName block kind cardinality)
      changeGatewayInPlace target (.join join)
  | .getById source id excluded => (w, w.getById id excluded source)
  | .insert target now entity => (w, w.write target fun g => (g.insert now entity).map Prod.fst)
  | .update target now entity => (w, w.write target fun g => (g.update now entity).map Prod.fst)

theorem performInPlace_eq (tables : List (TableDefinition E)) (w : World E)
    (request : PlainRequest) : w.performInPlace tables request = w.perform tables request := by
  cases request with
  | newFilter aliasName =>
    simp only [performInPlace, perform]
    cases Filter.make aliasName <;> rfl
  | newGateway table aliasName settings =>
    simp only [performInPlace, perform]
    cases openGateway tables settings (table, aliasName) <;> rfl
  | newComposite base members settings =>
    simp only [performInPlace, perform]
    cases openGateway tables settings base with
    | error cause => rfl
    | ok bases => cases members.mapM (openGateway tables settings) <;> rfl
  | combinator target combinator =>
    simp only [performInPlace, perform, stepFilterInPlace_eq, carryOut_atOnce]
  | group target source =>
    cases found : w.filter? source with
    | none => simp only [performInPlace, perform, found]
    | some other =>
      simp only [performInPlace, perform, found, stepFilterInPlace_eq, carryOut_atOnce]
  | clearFilter target =>
    simp only [performInPlace, perform, stepFilterInPlace_eq, carryOut_atOnce]
  | setFilter target source =>
    cases found : w.filter? source with
    | none => simp only [performInPlace, perform, found]
    | some other =>
      simp only [performInPlace, perform, found, replaceFilterInPlace_eq, carryOut_atOnce]
  | orderBy target column order =>
    simp only [performInPlace, perform, changeGatewayInPlace_eq, carryOut_atOnce]
  | clearOrdering target =>
    simp only [performInPlace, perform, changeGatewayInPlace_eq, carryOut_atOnce]
  | newOrdering target aliasName =>
    simp only [performInPlace, perform, changeGatewayInPlace_eq]
    cases OrderBy.make aliasName with
    | error cause => rfl
    | ok ordering => exact carryOut_atOnce w _
  | combination composite combination =>
    rw [performInPlace, Procedure.modify_eq_atOnce, onComposite_atOnce, carryOut_atOnce]
    rfl
  | clearFilters composite =>
    rw [performInPlace, CompositeGateway.clearFiltersInPlace_eq, onComposite_atOnce,
      carryOut_atOnce]
    rfl
  | get source excluded => rfl
  | delete target => rfl

/-- A request that is carried out in place comes to the same as one that takes place at once, or
not at all. -/
theorem stepInPlace_eq (tables : List (TableDefinition E)) (w : World E) (request : Request E) :
    w.stepInPlace tables request = w.step tables request := by
  cases request with
  | plain request => exact performInPlace_eq tables w request
  | condition target column comparison operand =>
    simp only [stepInPlace, step, stepFilterInPlace_eq, carryOut_atOnce]
  | join target table aliasName condition kind cardinality =>
    simp only [stepInPlace, step, changeGatewayInPlace_eq]
    cases condition.build with
    | error cause => rfl
    | ok block =>
      show w.carryOut (check (Join.make table aliasName block kind cardinality) >>= _) =
        w.attempt (Join.make table aliasName block kind cardinality >>= _)
      cases Join.make table aliasName block kind cardinality with
      | error cause => rfl
      | ok join => exact carryOut_atOnce w _
  | getById source id excluded => rfl
  | insert target now entity => rfl
  | update target now entity => rfl

end World

end BoundSql
