import BoundSql.Proofs.Decoding
import BoundSql.Proofs.FilterInvariant
import BoundSql.Proofs.InPlace
import BoundSql.Proofs.TwoRuns

/-!
# Refusals leave no trace

A desk is all that a program works with: the filters, gateways and composites it keeps, blocks of
its own, and entities, which are stamped when they are written. Requests are carried out in place,
one after the other, whether earlier ones were refused or not. A refused request leaves the desk as
it was (`Desk.eq_of_refused`). So a run comes to the same without the requests that are refused in
it: the same desk at the end, and the same answers to the others (`Desk.run_without_refusals`).
-/

namespace BoundSql

open Procedure (check within onItem)

/-- Whether a procedure is refused in a state. -/
def Procedure.refuses {σ α : Type} (procedure : Procedure σ α) (state : σ) : Bool :=
  match procedure state with
  | .ok _ _ => false
  | .error _ _ => true

/-- A refusal leaves the state as it was. -/
def Procedure.Traceless {σ α : Type} (procedure : Procedure σ α) : Prop :=
  ∀ state cause after, procedure state = .error cause after → after = state

namespace Procedure

variable {σ τ α β : Type}

/-- A refused procedure gives a reason and leaves some state. -/
theorem exists_of_refuses {procedure : Procedure σ α} {state : σ}
    (refused : procedure.refuses state = true) :
    ∃ cause after, procedure state = .error cause after := by
  unfold refuses at refused
  split at refused
  · cases refused
  · next cause after shape => exact ⟨cause, after, shape⟩

/-- What takes place at once, or not at all, leaves no trace. -/
theorem traceless_atOnce (step : σ → Except QueryError σ) : (atOnce step).Traceless :=
  fun _ _ _ => eq_of_refused

/-- What is not refused leaves no trace of a refusal. -/
theorem traceless_modify (step : σ → σ) : (modify step : Procedure σ Unit).Traceless := by
  rintro _ _ _ ⟨⟩

/-- A check in front leaves no trace. -/
theorem Traceless.check_bind {outcome : Except QueryError α} {next : α → Procedure σ β}
    (later : ∀ result, (next result).Traceless) : (check outcome >>= next).Traceless := by
  cases outcome with
  | error cause =>
    rintro state _ _ ⟨⟩
    rfl
  | ok result => exact later result

/-- What leaves no trace in a part leaves none in the whole. -/
theorem Traceless.within {part : σ → τ} {replace : σ → τ → σ} {procedure : Procedure τ α}
    (inner : procedure.Traceless) (same : ∀ state, replace state (part state) = state) :
    (within part replace procedure).Traceless := by
  intro state cause after refused
  unfold Procedure.within at refused
  split at refused
  · cases refused
  · next failed =>
    cases refused
    rw [inner _ _ _ failed, same]

/-- What leaves no trace in an item leaves none in the list. -/
theorem Traceless.onItem {procedure : Procedure τ Unit} (inner : procedure.Traceless)
    (number : Nat) : (onItem number procedure).Traceless := by
  intro items cause after refused
  unfold Procedure.onItem at refused
  split at refused
  · cases refused
  · next item found =>
    split at refused
    · cases refused
    · next failed =>
      cases refused
      rw [inner _ _ _ failed, set_of_getElem? found]

end Procedure

/-- A change of a block. -/
inductive BlockStep where
  /-- Appends a part whose link is checked. -/
  | push (link : Option Combinator) (part : PartPlan)
  /-- Appends a condition, linked by position. -/
  | addCondition (requested : Option Combinator) (qualifier column : String)
    (comparison : Comparison) (operand : Operand)
  /-- Nests a block, linked by position. -/
  | addGroup (requested : Option Combinator) (group : BlockPlan)
  /-- Appends raw text, linked by position. -/
  | addText (text : String)
  /-- Removes all parts. -/
  | clear

/-- Changes a block in place. What is appended is built first. -/
def Block.stepInPlace : BlockStep → Procedure Block Unit
  | .push link part => do
    let part ← check part.build
    pushInPlace link part
  | .addCondition requested qualifier column comparison operand => do
    let condition ← check (Condition.make qualifier column comparison operand)
    modify (·.addCondition requested condition)
  | .addGroup requested group => do
    let group ← check group.build
    modify (·.addGroup requested group)
  | .addText text => modify (·.addText text)
  | .clear => modify fun _ => .empty

/-- A refused change of a block leaves no trace. -/
theorem Block.traceless_stepInPlace (step : BlockStep) : (stepInPlace step).Traceless := by
  cases step with
  | push link part =>
    refine .check_bind fun part => ?_
    rw [pushInPlace_eq]
    exact Procedure.traceless_atOnce _
  | addCondition requested qualifier column comparison operand =>
    exact .check_bind fun condition => Procedure.traceless_modify _
  | addGroup requested group => exact .check_bind fun group => Procedure.traceless_modify _
  | addText text => exact Procedure.traceless_modify _
  | clear => exact Procedure.traceless_modify _

/-- What a program works with. -/
structure Desk (E : Type) where
  /-- The filters, gateways and composites it keeps. -/
  world : World E := {}
  /-- Blocks of their own. -/
  blocks : List Block := []
  /-- The entities that are written. -/
  entities : List E := []

/-- A request at a desk. -/
inductive DeskRequest (E : Type) where
  /-- A request about what is kept. -/
  | keep (request : Request E)
  /-- A new block. -/
  | newBlock (plan : BlockPlan)
  /-- A change of a block. -/
  | changeBlock (number : Nat) (step : BlockStep)
  /-- A new entity. -/
  | newEntity (entity : E)
  /-- The insertion of one of the entities at a time. -/
  | insert (target : Place) (now : Instant) (number : Nat)
  /-- The update to one of the entities at a time. -/
  | update (target : Place) (now : Instant) (number : Nat)

namespace Desk

variable {E : Type}

/-- The desk after a procedure, refused or not, and the answer. -/
def carryOut (d : Desk E) (procedure : Procedure (Desk E) Unit) : Desk E × Answer :=
  match procedure d with
  | .ok _ next => (next, ⟨[], .ok none⟩)
  | .error cause next => (next, ⟨[], .error cause⟩)

/-- The desk after an entity is written through a gateway, and the answer; nothing if there is no
such gateway or entity. -/
def write (d : Desk E) (target : Place) (number : Nat)
    (procedure : EntityGateway E → Procedure E Query) : Desk E × Answer :=
  match d.world.gateway? target, d.entities[number]? with
  | some g, some entity =>
    match procedure g entity with
    | .ok query next => ({ d with entities := d.entities.set number next }, ⟨[], .ok (some query)⟩)
    | .error cause next => ({ d with entities := d.entities.set number next }, ⟨[], .error cause⟩)
  | _, _ => (d, ⟨[], .ok none⟩)

/-- Carries out a request in place. -/
def step (tables : List (TableDefinition E)) (d : Desk E) : DeskRequest E → Desk E × Answer
  | .keep request =>
    let (world, answer) := d.world.stepInPlace tables request
    ({ d with world }, answer)
  | .newBlock plan =>
    d.carryOut do
      let block ← check plan.build
      modify fun d => { d with blocks := d.blocks ++ [block] }
  | .changeBlock number step =>
    d.carryOut <| within (·.blocks) (fun d blocks => { d with blocks })
      (onItem number (Block.stepInPlace step))
  | .newEntity entity => ({ d with entities := d.entities ++ [entity] }, ⟨[], .ok none⟩)
  | .insert target now number => d.write target number (·.insertInPlace now)
  | .update target now number => d.write target number (·.updateInPlace now)

/-- The desk after requests made one after the other, and the answers. -/
def run (tables : List (TableDefinition E)) (d : Desk E) :
    List (DeskRequest E) → Desk E × List Answer
  | [] => (d, [])
  | request :: rest =>
    let (next, answer) := d.step tables request
    let (last, answers) := run tables next rest
    (last, answer :: answers)

/-- The requests of a run that are not refused in it. -/
def accepted (tables : List (TableDefinition E)) (d : Desk E) (requests : List (DeskRequest E)) :
    List (DeskRequest E) :=
  ((requests.zip (d.run tables requests).2).filter fun (_, answer) => answer.result.isOk).map
    Prod.fst

end Desk

namespace World

variable {E : Type} {tables : List (TableDefinition E)} {w : World E} {cause : QueryError}

/-- A refused attempt leaves the world as it was. -/
theorem eq_of_refused_attempt {changed : Except QueryError (World E)}
    (refused : (w.attempt changed).2.result = .error cause) : (w.attempt changed).1 = w := by
  cases changed with
  | error reason => rfl
  | ok next => cases refused

/-- A refused request leaves the world as it was. -/
theorem eq_of_refused {request : Request E}
    (refused : (w.step tables request).2.result = .error cause) :
    (w.step tables request).1 = w := by
  cases request with
  | plain request =>
    cases request with
    | group target source | setFilter target source =>
      simp only [step, perform] at refused ⊢
      split at refused
      · rfl
      · exact eq_of_refused_attempt refused
    | get source excluded => rfl
    | delete target => rfl
    | _ => exact eq_of_refused_attempt refused
  | condition target column comparison operand => exact eq_of_refused_attempt refused
  | join target table aliasName condition kind cardinality => exact eq_of_refused_attempt refused
  | getById source id excluded => rfl
  | insert target now entity => rfl
  | update target now entity => rfl

end World

namespace Desk

variable {E : Type} {tables : List (TableDefinition E)} {d : Desk E} {cause : QueryError}

/-- A refused procedure leaves the desk as it was if it leaves no trace. -/
theorem eq_of_refused_carryOut {procedure : Procedure (Desk E) Unit}
    (traceless : procedure.Traceless)
    (refused : (d.carryOut procedure).2.result = .error cause) : (d.carryOut procedure).1 = d := by
  unfold carryOut at refused ⊢
  cases shape : procedure d with
  | ok result next => simp [shape] at refused
  | error reason next => exact traceless d reason next shape

/-- A refused write leaves the desk as it was, with the entity, if it leaves no trace. -/
theorem eq_of_refused_write {target : Place} {number : Nat}
    {procedure : EntityGateway E → Procedure E Query} (traceless : ∀ g, (procedure g).Traceless)
    (refused : (d.write target number procedure).2.result = .error cause) :
    (d.write target number procedure).1 = d := by
  unfold write at refused ⊢
  split
  · next g entity there found =>
    simp only [there, found] at refused
    cases shape : procedure g entity with
    | ok query next => simp [shape] at refused
    | error reason next =>
      have same := traceless g entity reason next shape
      simp only [same, Procedure.set_of_getElem? found]
  · rfl

/-- A refused request leaves the desk as it was. -/
theorem eq_of_refused {request : DeskRequest E}
    (refused : (d.step tables request).2.result = .error cause) :
    (d.step tables request).1 = d := by
  cases request with
  | keep request =>
    simp only [step, World.stepInPlace_eq] at refused ⊢
    rw [World.eq_of_refused refused]
  | newBlock plan =>
    have traceless : Procedure.Traceless (check plan.build >>= fun block =>
        modify fun d : Desk E => { d with blocks := d.blocks ++ [block] }) :=
      .check_bind fun block => Procedure.traceless_modify _
    exact eq_of_refused_carryOut traceless refused
  | changeBlock number step =>
    have traceless := (Block.traceless_stepInPlace step).onItem number
    exact eq_of_refused_carryOut (traceless.within fun _ => rfl) refused
  | newEntity entity => cases refused
  | insert target now number =>
    refine eq_of_refused_write (fun g => ?_) refused
    rw [EntityGateway.insertInPlace_eq]
    exact fun _ _ _ => Procedure.eq_of_refused
  | update target now number =>
    refine eq_of_refused_write (fun g => ?_) refused
    rw [EntityGateway.updateInPlace_eq]
    exact fun _ _ _ => Procedure.eq_of_refused

/-- A run goes on from the desk that its first request leaves. -/
theorem run_cons (request : DeskRequest E) (rest : List (DeskRequest E)) :
    d.run tables (request :: rest) =
      (((d.step tables request).1.run tables rest).1,
        (d.step tables request).2 :: ((d.step tables request).1.run tables rest).2) := rfl

/-- A run of the requests that are not refused in it ends at the same desk, with the answers that
they had. -/
theorem run_accepted (requests : List (DeskRequest E)) :
    d.run tables (d.accepted tables requests) =
      ((d.run tables requests).1, (d.run tables requests).2.filter (·.result.isOk)) := by
  induction requests generalizing d with
  | nil => rfl
  | cons request rest ih =>
    cases answered : (d.step tables request).2.result with
    | error cause =>
      have same := eq_of_refused answered
      have dropped : d.accepted tables (request :: rest) = d.accepted tables rest := by
        simp [accepted, run_cons, answered, same, Except.isOk, Except.toBool]
      rw [dropped, ih, run_cons, same]
      simp [answered, Except.isOk, Except.toBool]
    | ok query? =>
      have kept : d.accepted tables (request :: rest) =
          request :: (d.step tables request).1.accepted tables rest := by
        simp [accepted, run_cons, answered, Except.isOk, Except.toBool]
      rw [kept, run_cons, ih, run_cons]
      simp [answered, Except.isOk, Except.toBool]

/-- Refusals leave no trace. Without the requests that are refused in it, a run ends at the same
desk, with the same answers to the others. In particular a refused step leaves a filter with its
parts and the combinator it waits with, and an entity that cannot be written is not stamped. -/
theorem run_without_refusals (tables : List (TableDefinition E)) :
    (∀ (d : Desk E) (requests : List (DeskRequest E)),
      d.run tables (d.accepted tables requests) =
        ((d.run tables requests).1, (d.run tables requests).2.filter (·.result.isOk))) ∧
    (∀ (filter after : Filter) (step : FilterStep) (cause : QueryError),
      Filter.stepInPlace step filter = .error cause after → after = filter) ∧
    (∀ (g : EntityGateway E) (now : Instant) (entity after : E) (cause : QueryError),
      g.insertInPlace now entity = .error cause after ∨
        g.updateInPlace now entity = .error cause after → after = entity) := by
  refine ⟨fun d => run_accepted, ?_, ?_⟩
  · intro filter after step cause refused
    rw [Filter.stepInPlace_eq] at refused
    exact Procedure.eq_of_refused refused
  · rintro g now entity after cause (refused | refused)
    · rw [EntityGateway.insertInPlace_eq] at refused
      exact Procedure.eq_of_refused refused
    · rw [EntityGateway.updateInPlace_eq] at refused
      exact Procedure.eq_of_refused refused

end Desk

namespace Sample

/-- The table of people, whose column is misnamed. -/
def misnamed : TableDefinition (Option String) :=
  { people with writable := [⟨"full name", fun name => name.map .text⟩] }

/-- A gateway of the misnamed table. -/
def clerk : EntityGateway (Option String) :=
  { definition := misnamed, table := users, settings := default, filter := .empty users.aliasName
    ordering := .empty users.aliasName, joins := [] }

/-- A filter that waits with OR for another part. -/
def waiting : Filter := { doubled with pending := some .or }

/-- Two requests are refused: a condition with an empty list, and an update of a misnamed
column. -/
def mishaps (now : Instant) : List (DeskRequest (Option String)) :=
  [.keep (.plain (.newGateway 0 "u" default)),
   .keep (.condition (.kept (.single 0)) "name" .isNull .none),
   .keep (.plain (.combinator (.kept (.single 0)) .or)),
   .keep (.condition (.kept (.single 0)) "name" .among (.list [])),
   .newEntity (some "Eve"), .update (.single 0) now 0,
   .keep (.condition (.kept (.single 0)) "name" .equal (.single (.text "Ada")))]

end Sample

/-- Five of seven requests are accepted, and the other two leave no trace; nor does an empty list
use up a waiting combinator, or a misnamed column stamp an entity. -/
theorem Desk.run_without_refusals_mishaps :
    (({} : Desk (Option String)).accepted [Sample.misnamed] (Sample.mishaps ⟨0, 0⟩)).length = 5 ∧
    run [Sample.misnamed] {} (accepted [Sample.misnamed] {} (Sample.mishaps ⟨0, 0⟩)) =
      ((run [Sample.misnamed] {} (Sample.mishaps ⟨0, 0⟩)).1,
        (run [Sample.misnamed] {} (Sample.mishaps ⟨0, 0⟩)).2.filter (·.result.isOk)) ∧
    (∃ cause after, Filter.stepInPlace (.among "rank" []) Sample.waiting = .error cause after ∧
      after = Sample.waiting) ∧
    ∃ cause after, Sample.clerk.updateInPlace ⟨0, 0⟩ (some "Eve") = .error cause after ∧
      after = some "Eve" := by
  obtain ⟨runs, filters, entities⟩ := run_without_refusals [Sample.misnamed]
  refine ⟨by decide +kernel, runs {} (Sample.mishaps ⟨0, 0⟩), ?_, ?_⟩
  · have refused : (Filter.stepInPlace (.among "rank" [])).refuses Sample.waiting = true := by
      decide +kernel
    obtain ⟨cause, after, shape⟩ := Procedure.exists_of_refuses refused
    exact ⟨cause, after, shape, filters _ _ _ cause shape⟩
  · have refused : (Sample.clerk.updateInPlace ⟨0, 0⟩).refuses (some "Eve") = true := by
      decide +kernel
    obtain ⟨cause, after, shape⟩ := Procedure.exists_of_refuses refused
    exact ⟨cause, after, shape, entities _ _ _ _ cause (.inr shape)⟩

end BoundSql
