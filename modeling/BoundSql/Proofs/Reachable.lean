import BoundSql.Gateway.Entity
import BoundSql.Proofs.Outcome
import BoundSql.Proofs.Words

/-!
# Reachable blocks, filters and gateways

The blocks and filters that can be built. A plan writes down how a block is built: which
operations are applied to it, and how the parts it is given are built in turn. A filter is
built by steps, and may take in the blocks of other filters; the block of a filter is
built by operations on blocks alone (`Filter.Reachable.block`).

In a reachable block, at every depth, exactly the first part has no link, and no nested
block is without parts (`Block.Reachable.wellLinked`).

A gateway is reached by changes from a new one. No change moves it to another table
(`EntityGateway.Reachable.named`). Its filter stays on its alias until a filter of another alias is
put in its place (`EntityGateway.alias_change`).
-/

namespace BoundSql

open Outcome

mutual

/-- How a part of a block is built. -/
inductive PartPlan where
  /-- A condition from its parts. -/
  | condition (qualifier column : String) (comparison : Comparison) (operand : Operand)
  /-- A nested block. -/
  | group (block : BlockPlan)
  /-- Raw text. -/
  | text (text : String)

/-- How a block is built. -/
inductive BlockPlan where
  /-- A block without parts: a new one, or one that was cleared. -/
  | empty
  /-- Appends a part whose link is checked. -/
  | push (block : BlockPlan) (link : Option Combinator) (part : PartPlan)
  /-- A block of parts whose links are checked. -/
  | ofParts (row : RowPlan)
  /-- Appends a condition, linked by position. -/
  | addCondition (block : BlockPlan) (requested : Option Combinator) (qualifier column : String)
      (comparison : Comparison) (operand : Operand)
  /-- Nests a block, linked by position. -/
  | addGroup (block : BlockPlan) (requested : Option Combinator) (group : BlockPlan)
  /-- Appends raw text, linked by position. -/
  | addText (block : BlockPlan) (text : String)

/-- How the parts of a block and their links are given. -/
inductive RowPlan where
  /-- No part. -/
  | nil
  /-- A part with its link, followed by others. -/
  | cons (link : Option Combinator) (part : PartPlan) (rest : RowPlan)

end

mutual

/-- The part a plan comes to. -/
def PartPlan.build : PartPlan → Except QueryError Part
  | .condition qualifier column comparison operand =>
    (Condition.make qualifier column comparison operand).map .condition
  | .group block => block.build.map .group
  | .text text => .ok (.text text)

/-- The block a plan comes to. -/
def BlockPlan.build : BlockPlan → Except QueryError Block
  | .empty => .ok .empty
  | .push block link part => do
    let block ← block.build
    let part ← part.build
    block.push link part
  | .ofParts row => do
    let parts ← row.build
    Block.ofParts parts
  | .addCondition block requested qualifier column comparison operand => do
    let block ← block.build
    (Condition.make qualifier column comparison operand).map (block.addCondition requested)
  | .addGroup block requested group => do
    let block ← block.build
    group.build.map (block.addGroup requested)
  | .addText block text => block.build.map (·.addText text)

/-- The parts with their links a plan comes to; all parts are built, the first one first. -/
def RowPlan.build : RowPlan → Except QueryError (List (Option Combinator × Part))
  | .nil => .ok []
  | .cons link part rest => do
    let part ← part.build
    rest.build.map ((link, part) :: ·)

end

/-- The name of a table is read as a qualifier, since it is not empty. -/
theorem Condition.readQualifier_text (name : TableName) :
    readQualifier name.text = .ok (some name) := by
  have written : name.text ≠ "" := fun nothing =>
    name.isWord.toList_ne_nil (by simp [nothing])
  simp [readQualifier, written, Except.map]

/-- A condition is made from its own parts. -/
theorem Condition.make_parts (c : Condition) :
    make c.qualifierText c.column.text c.comparison c.operand = .ok c := by
  have qualifier : readQualifier c.qualifierText = .ok c.qualifier := by
    cases shape : c.qualifier with
    | none => simp [readQualifier, qualifierText, shape]
    | some name =>
      have text : c.qualifierText = name.text := by simp [qualifierText, shape]
      rw [text, readQualifier_text]
  simp [make, qualifier, c.admitted, bind, Except.bind, pure, Except.pure]

/-- A condition that is made has the qualifier that was read. -/
theorem Condition.qualifier_of_make {qualifier column : String} {comparison : Comparison}
    {operand : Operand} {c : Condition}
    (made : make qualifier column comparison operand = .ok c) :
    readQualifier qualifier = .ok c.qualifier := by
  obtain ⟨_, _, made⟩ := bind_eq_ok.1 made
  obtain ⟨name, read, made⟩ := bind_eq_ok.1 made
  split at made
  · cases made
    exact read
  · split at made <;> cases made

/-- Some plan comes to the block. -/
def Block.Reachable (block : Block) : Prop := ∃ plan : BlockPlan, plan.build = .ok block

mutual

/-- Every block in the part has parts and is well linked. -/
def Part.WellLinked : Part → Prop
  | .condition _ => True
  | .group block => block ≠ .empty ∧ block.WellLinked true
  | .text _ => True

/-- At every depth exactly the first part has no link, and no nested block is without
parts. `leading` says whether the row begins here, or goes on behind another part. -/
def Block.WellLinked (leading : Bool) : Block → Prop
  | .empty => True
  | .entry link part rest =>
    link.isNone = leading ∧ part.WellLinked ∧ rest.WellLinked false

end

namespace Block

/-- A part may be appended whose link fits the position at the end. -/
theorem wellLinked_append {link : Option Combinator} {part : Part} (sound : part.WellLinked) :
    {block : Block} → {leading : Bool} → block.WellLinked leading →
      link.isNone = (block.isEmpty && leading) → (block.append link part).WellLinked leading
  | empty, leading, _, fits => by simpa [append, WellLinked, isEmpty, sound] using fits
  | entry link' part' rest, leading, before, fits => by
    obtain ⟨first, kept, others⟩ := before
    refine ⟨first, kept, wellLinked_append sound others ?_⟩
    simpa [isEmpty] using fits

/-- The link chosen by position fits. -/
theorem isNone_nextLink (block : Block) (requested : Option Combinator) :
    (block.nextLink requested).isNone = block.isEmpty := by
  cases block <;> simp [nextLink, isEmpty]

/-- A checked part keeps a block well linked if its own blocks are. -/
theorem wellLinked_push {block result : Block} {link : Option Combinator} {part : Part}
    (before : block.WellLinked true) (inner : ∀ group, part = .group group → group.WellLinked true)
    (accepted : block.push link part = .ok result) : result.WellLinked true := by
  have sound : vacuous part = false → part.WellLinked := by
    intro present
    cases part with
    | condition condition => trivial
    | text text => trivial
    | group group =>
      refine ⟨fun nothing => ?_, inner group rfl⟩
      simp [vacuous, nothing, isEmpty] at present
  cases found : block.isEmpty <;> cases link <;> simp only [push, found] at accepted
  case true.some => cases accepted
  case false.none => cases accepted
  all_goals
    cases accepted
    split
    · exact before
    · next present =>
      exact wellLinked_append (sound (by simpa using present)) before (by simp [found])

/-- Checked parts, pushed one after the other, keep a block well linked. -/
theorem wellLinked_foldlM_push {entries : List (Option Combinator × Part)} {block result : Block}
    (before : block.WellLinked true)
    (inner : ∀ entry ∈ entries, ∀ group, entry.2 = .group group → group.WellLinked true)
    (accepted : entries.foldlM (fun block (link, part) => block.push link part) block = .ok result) :
    result.WellLinked true := by
  induction entries generalizing block with
  | nil =>
    cases accepted
    exact before
  | cons entry rest ih =>
    rw [List.foldlM_cons] at accepted
    obtain ⟨next, pushed, others⟩ := bind_eq_ok.1 accepted
    have kept := wellLinked_push before (inner entry List.mem_cons_self) pushed
    exact ih kept (fun later member => inner later (List.mem_cons_of_mem _ member)) others

/-- A condition linked by position keeps a block well linked. -/
theorem wellLinked_addCondition {block : Block} (before : block.WellLinked true)
    (requested : Option Combinator) (condition : Condition) :
    (block.addCondition requested condition).WellLinked true := by
  have sound : Part.WellLinked (.condition condition) := trivial
  exact wellLinked_append sound before (by simp [isNone_nextLink])

/-- A nested block linked by position keeps a block well linked. -/
theorem wellLinked_addGroup {block group : Block} (before : block.WellLinked true)
    (inner : group.WellLinked true) (requested : Option Combinator) :
    (block.addGroup requested group).WellLinked true := by
  unfold addGroup
  split
  · exact before
  · next present =>
    have kept : Part.WellLinked (.group group) :=
      ⟨fun nothing => present (isEmpty_iff.2 nothing), inner⟩
    exact wellLinked_append kept before (by simp [isNone_nextLink])

/-- A raw text linked by position keeps a block well linked. -/
theorem wellLinked_addText {block : Block} (before : block.WellLinked true) (text : String) :
    (block.addText text).WellLinked true := by
  have sound : Part.WellLinked (.text text) := trivial
  exact wellLinked_append sound before (by simp [isNone_nextLink])

end Block

mutual

/-- Every nested block that a plan comes to is well linked. -/
theorem PartPlan.wellLinked : {plan : PartPlan} → {part : Part} → plan.build = .ok part →
    ∀ group, part = .group group → group.WellLinked true
  | .condition .., part, built, group, shape => by
    obtain ⟨condition, _, rfl⟩ := map_eq_ok.1 built
    cases shape
  | .group _, part, built, group, shape => by
    obtain ⟨inner, made, rfl⟩ := map_eq_ok.1 built
    cases shape
    exact BlockPlan.wellLinked made
  | .text _, part, built, group, shape => by
    cases built
    cases shape

/-- Every block that a plan comes to is well linked. -/
theorem BlockPlan.wellLinked : {plan : BlockPlan} → {block : Block} → plan.build = .ok block →
    block.WellLinked true
  | .empty, block, built => by
    cases built
    trivial
  | .push _ link _, block, built => by
    obtain ⟨before, made, built⟩ := bind_eq_ok.1 built
    obtain ⟨part, inner, pushed⟩ := bind_eq_ok.1 built
    exact Block.wellLinked_push (BlockPlan.wellLinked made) (PartPlan.wellLinked inner) pushed
  | .ofParts _, block, built => by
    obtain ⟨entries, made, pushed⟩ := bind_eq_ok.1 built
    have before : Block.WellLinked true .empty := trivial
    exact Block.wellLinked_foldlM_push before (RowPlan.wellLinked made) pushed
  | .addCondition _ requested .., block, built => by
    obtain ⟨before, made, built⟩ := bind_eq_ok.1 built
    obtain ⟨condition, _, rfl⟩ := map_eq_ok.1 built
    exact Block.wellLinked_addCondition (BlockPlan.wellLinked made) requested condition
  | .addGroup _ requested _, block, built => by
    obtain ⟨before, made, built⟩ := bind_eq_ok.1 built
    obtain ⟨group, inner, rfl⟩ := map_eq_ok.1 built
    exact Block.wellLinked_addGroup (BlockPlan.wellLinked made) (BlockPlan.wellLinked inner) requested
  | .addText _ text, block, built => by
    obtain ⟨before, made, rfl⟩ := map_eq_ok.1 built
    exact Block.wellLinked_addText (BlockPlan.wellLinked made) text

/-- Every nested block among the parts that a plan comes to is well linked. -/
theorem RowPlan.wellLinked : {plan : RowPlan} → {entries : List (Option Combinator × Part)} →
    plan.build = .ok entries →
      ∀ entry ∈ entries, ∀ group, entry.2 = .group group → group.WellLinked true
  | .nil, entries, built, entry, member => by
    cases built
    cases member
  | .cons _ _ _, entries, built, entry, member => by
    obtain ⟨part, made, built⟩ := bind_eq_ok.1 built
    obtain ⟨others, later, rfl⟩ := map_eq_ok.1 built
    rcases List.mem_cons.1 member with rfl | member
    · exact PartPlan.wellLinked made
    · exact RowPlan.wellLinked later entry member

end

namespace Block.Reachable

/-- A reachable block is well linked at every depth. -/
theorem wellLinked {block : Block} (reachable : block.Reachable) : block.WellLinked true := by
  obtain ⟨plan, built⟩ := reachable
  exact BlockPlan.wellLinked built

/-- A block without parts is reachable. -/
theorem empty : Block.Reachable .empty := ⟨.empty, rfl⟩

/-- A reachable block with one more condition is reachable. -/
theorem addCondition {block : Block} (before : block.Reachable) (requested : Option Combinator)
    (condition : Condition) : (block.addCondition requested condition).Reachable := by
  obtain ⟨plan, built⟩ := before
  refine ⟨.addCondition plan requested condition.qualifierText condition.column.text
    condition.comparison condition.operand, ?_⟩
  simp [BlockPlan.build, built, condition.make_parts, bind, Except.bind, Except.map]

/-- A reachable block nested in a reachable one is reachable. -/
theorem addGroup {block group : Block} (before : block.Reachable) (inner : group.Reachable)
    (requested : Option Combinator) : (block.addGroup requested group).Reachable := by
  obtain ⟨plan, built⟩ := before
  obtain ⟨plan', built'⟩ := inner
  refine ⟨.addGroup plan requested plan', ?_⟩
  simp [BlockPlan.build, built, built', bind, Except.bind, Except.map]

/-- A reachable block with one more raw text is reachable. -/
theorem addText {block : Block} (before : block.Reachable) (text : String) :
    (block.addText text).Reachable := by
  obtain ⟨plan, built⟩ := before
  refine ⟨.addText plan text, ?_⟩
  simp [BlockPlan.build, built, Except.map]

end Block.Reachable

/-- The filter with one more part, linked by the requested combinator. -/
def Filter.extend (filter : Filter) (part : Part) : Filter :=
  { filter with block := filter.block.append (filter.block.nextLink filter.pending) part
                pending := none }

/-- What an accepted step does to a filter. -/
inductive Filter.Effect (filter : Filter) : FilterStep → Filter → Prop where
  /-- The condition is appended. -/
  | condition {column : String} {comparison : Comparison} {operand : Operand} {c : Condition}
    (made : Condition.make filter.aliasName.text column comparison operand = .ok c) :
    Effect filter (.condition column comparison operand) (filter.extend (.condition c))
  /-- The combinator is kept; a part stands before it, and none was kept yet. -/
  | combinator {combinator : Combinator} (present : filter.block ≠ .empty)
      (free : filter.pending = none) :
    Effect filter (.combinator combinator) { filter with pending := some combinator }
  /-- An empty filter adds nothing. -/
  | skip {other : Filter} (vacant : other.block = .empty) : Effect filter (.group other) filter
  /-- The block of another filter is nested. -/
  | group {other : Filter} (present : other.block ≠ .empty) :
    Effect filter (.group other) (filter.extend (.group other.block))
  /-- All parts are removed. -/
  | clear : Effect filter .clear (.empty filter.aliasName)

/-- A filter has no part exactly if its block has none. -/
theorem Filter.isEmpty_iff {filter : Filter} : filter.isEmpty = true ↔ filter.block = .empty :=
  Block.isEmpty_iff

/-- A block with parts is appended as one part. -/
theorem Block.addGroup_present {block group : Block} (requested : Option Combinator)
    (present : group ≠ .empty) :
    block.addGroup requested group =
      block.append (block.nextLink requested) (.group group) := by
  rw [addGroup, if_neg fun vacant => present (isEmpty_iff.1 vacant)]

/-- An empty filter adds nothing. -/
theorem Filter.addGroup_vacant {filter other : Filter} (vacant : other.block = .empty) :
    filter.addGroup other = filter := by
  rw [addGroup, if_pos (isEmpty_iff.2 vacant)]

/-- A filter with parts is nested as one part. -/
theorem Filter.addGroup_present {filter other : Filter} (present : other.block ≠ .empty) :
    filter.addGroup other = filter.extend (.group other.block) := by
  rw [addGroup, if_neg fun vacant => present (isEmpty_iff.1 vacant),
    Block.addGroup_present filter.pending present, extend]

/-- A step is accepted exactly if it has the effect. -/
theorem Filter.step_eq_ok_iff {filter next : Filter} {change : FilterStep} :
    filter.step change = .ok next ↔ filter.Effect change next := by
  constructor
  · intro accepted
    cases change with
    | condition column comparison operand =>
      obtain ⟨c, made, rfl⟩ := map_eq_ok.1 accepted
      exact .condition made
    | combinator combinator =>
      simp only [step, addCombinator] at accepted
      split at accepted
      · cases accepted
      · next present =>
        split at accepted
        · cases accepted
        · next free =>
          cases accepted
          exact .combinator (fun vacant => present (isEmpty_iff.2 vacant)) free
    | group other =>
      cases accepted
      by_cases vacant : other.block = .empty
      · rw [addGroup_vacant vacant]
        exact .skip vacant
      · rw [addGroup_present vacant]
        exact .group vacant
    | clear =>
      cases accepted
      exact .clear
  · intro effect
    cases effect with
    | condition made => exact map_eq_ok.2 ⟨_, made, rfl⟩
    | combinator present free =>
      have filled : ¬ filter.isEmpty = true := fun found => present (isEmpty_iff.1 found)
      simp only [step, addCombinator, if_neg filled, free]
    | skip vacant => rw [step, addGroup_vacant vacant]
    | group present => rw [step, addGroup_present present]
    | clear => rfl

/-- No step changes the alias. -/
theorem Filter.alias_step {filter next : Filter} {change : FilterStep}
    (accepted : filter.step change = .ok next) : next.aliasName = filter.aliasName := by
  cases step_eq_ok_iff.1 accepted with
  | condition | combinator | skip | group | clear => rfl

/-- The filters that steps build from new ones. A filter that is nested is built in the
same way. -/
inductive Filter.Reachable : Filter → Prop where
  /-- A new filter. -/
  | make {aliasName : String} {filter : Filter} (made : Filter.make aliasName = .ok filter) :
    Filter.Reachable filter
  /-- A filter after one more step. -/
  | step {filter next : Filter} {change : FilterStep} (before : Filter.Reachable filter)
      (inner : ∀ other, change = .group other → Filter.Reachable other)
      (accepted : filter.step change = .ok next) : Filter.Reachable next

/-- The block of a reachable filter is reachable. -/
theorem Filter.Reachable.block {filter : Filter} (reachable : filter.Reachable) :
    filter.block.Reachable := by
  induction reachable with
  | make made =>
    obtain ⟨aliasName, _, rfl⟩ := map_eq_ok.1 made
    exact .empty
  | @step filter next change _ _ accepted before inner =>
    cases Filter.step_eq_ok_iff.1 accepted with
    | @condition _ _ _ c made => exact before.addCondition filter.pending c
    | combinator present free => exact before
    | skip vacant => exact before
    | @group other present =>
      have grown := before.addGroup (inner other rfl) filter.pending
      rwa [Block.addGroup_present filter.pending present] at grown
    | clear => exact .empty

/-- A table is referenced by its own names. -/
theorem TableRef.make_names (table : TableRef) :
    make table.name.text table.aliasName.text = .ok table := by
  rw [make, TableName.read_text, TableName.read_text]
  rfl

namespace EntityGateway

variable {E : Type}

/-- The gateways that changes build from new ones. -/
inductive Reachable : EntityGateway E → Prop where
  /-- A new gateway. -/
  | make {definition : TableDefinition E} {aliasName : String} {settings : Settings}
      {g : EntityGateway E} (made : makeAs definition aliasName settings = .ok g) : Reachable g
  /-- A gateway after one more change. -/
  | change {g next : EntityGateway E} {change : GatewayChange} (before : Reachable g)
      (changed : g.change change = .ok next) : Reachable next

/-- A new gateway is one of the table of its definition, and its filter is one of its alias. -/
theorem named_makeAs {definition : TableDefinition E} {aliasName : String} {settings : Settings}
    {g : EntityGateway E} (made : makeAs definition aliasName settings = .ok g) :
    g.table.name.text = g.definition.name ∧ g.filter.aliasName = g.table.aliasName := by
  obtain ⟨table, referenced, rfl⟩ := map_eq_ok.1 made
  obtain ⟨name, read, referenced⟩ := bind_eq_ok.1 referenced
  obtain ⟨_, _, referenced⟩ := bind_eq_ok.1 referenced
  cases referenced
  exact ⟨TableName.text_of_read read, rfl⟩

/-- No change moves a gateway to another table. -/
theorem table_change {g next : EntityGateway E} {change : GatewayChange}
    (changed : g.change change = .ok next) :
    next.definition = g.definition ∧ next.table = g.table := by
  cases change with
  | filter step | nest aliasName steps | orderBy column order =>
    obtain ⟨_, _, rfl⟩ := map_eq_ok.1 changed
    exact ⟨rfl, rfl⟩
  | join join | clearOrdering | clearFilter | setFilter filter | setOrdering ordering =>
    cases changed
    exact ⟨rfl, rfl⟩

/-- Only a filter of another alias that is put in its place moves the filter of a gateway to that
alias. -/
theorem alias_change {g next : EntityGateway E} {change : GatewayChange}
    (own : g.filter.aliasName = g.table.aliasName)
    (kept : ∀ filter, change = .setFilter filter → filter.aliasName = g.table.aliasName)
    (changed : g.change change = .ok next) : next.filter.aliasName = next.table.aliasName := by
  rw [(table_change changed).2]
  cases change with
  | filter step =>
    obtain ⟨filter, accepted, rfl⟩ := map_eq_ok.1 changed
    exact (Filter.alias_step accepted).trans own
  | nest aliasName steps =>
    obtain ⟨other, _, rfl⟩ := map_eq_ok.1 changed
    have nested : g.filter.step (.group other) = .ok (g.filter.addGroup other) := rfl
    exact (Filter.alias_step nested).trans own
  | setFilter filter =>
    cases changed
    exact kept filter rfl
  | orderBy column order =>
    obtain ⟨ordering, _, rfl⟩ := map_eq_ok.1 changed
    exact own
  | join join | clearOrdering | clearFilter | setOrdering ordering =>
    cases changed
    exact own

/-- A gateway that can be reached is one of the table of its definition. -/
theorem Reachable.named {g : EntityGateway E} (reachable : g.Reachable) :
    g.table.name.text = g.definition.name := by
  induction reachable with
  | make made => exact (named_makeAs made).1
  | change _ changed before =>
    obtain ⟨same, stays⟩ := table_change changed
    rw [same, stays, before]

end EntityGateway

mutual

/-- The raw texts in a part, from left to right. -/
def Part.rawTexts : Part → List String
  | .condition _ => []
  | .group block => block.rawTexts
  | .text text => [text]

/-- The raw texts in a block, depth first and from left to right. -/
def Block.rawTexts : Block → List String
  | .empty => []
  | .entry _ part rest => part.rawTexts ++ rest.rawTexts

end

end BoundSql
