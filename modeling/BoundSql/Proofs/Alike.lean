import BoundSql.Join
import BoundSql.Proofs.Reachable

/-!
# Structures that differ in values only

Two structures are alike over a relation of values if they agree in everything but their
values, and have related values at the same places. Nothing is assumed about the relation.
Every operation on blocks, filters and joins keeps structures alike, and is refused for
the same reason on both sides: no operation looks at a value, only at whether an operand
has one, several or none.
-/

namespace BoundSql

variable {R : Value → Value → Prop}

/-- Operands of one kind with related values. -/
inductive Operand.Alike (R : Value → Value → Prop) : Operand → Operand → Prop where
  | none : Operand.Alike R .none .none
  | single {v v' : Value} (values : R v v') : Operand.Alike R (.single v) (.single v')
  | list {vs vs' : List Value} (values : List.Forall₂ R vs vs') :
    Operand.Alike R (.list vs) (.list vs')

theorem Operand.Alike.arity {operand operand' : Operand} (operands : operand.Alike R operand') :
    operand.arity = operand'.arity := by
  cases operands <;> rfl

/-- An operator admits both of two alike operands or neither. -/
theorem Operand.Alike.admits {operand operand' : Operand} (operands : operand.Alike R operand')
    (comparison : Comparison) : comparison.Admits operand ↔ comparison.Admits operand' := by
  have vacant : operand = .list [] ↔ operand' = .list [] := by
    cases operands with
    | none => simp
    | single values => simp
    | list values => cases values <;> simp
  unfold Comparison.Admits
  rw [operands.arity, ne_eq, ne_eq, vacant]

/-- Conditions with the same column and operator and with alike operands. -/
structure Condition.Alike (R : Value → Value → Prop) (c c' : Condition) : Prop where
  qualifier : c.qualifier = c'.qualifier
  column : c.column = c'.column
  comparison : c.comparison = c'.comparison
  operand : c.operand.Alike R c'.operand

/-- Conditions are made alike, or refused alike. -/
theorem Condition.make_alike (qualifier column : String) (comparison : Comparison)
    {operand operand' : Operand} (operands : operand.Alike R operand') :
    Outcome.Alike (Condition.Alike R) (make qualifier column comparison operand)
      (make qualifier column comparison operand') := by
  unfold make
  apply (Outcome.Alike.refl _).bind
  intro name name' names
  apply (Outcome.Alike.refl _).bind
  intro target target' targets
  subst names targets
  by_cases admitted : comparison.Admits operand
  · have admitted' := (operands.admits comparison).1 admitted
    rw [dif_pos admitted, dif_pos admitted']
    exact .ok ⟨rfl, rfl, rfl, operands⟩
  · have refused : ¬ comparison.Admits operand' := fun other =>
      admitted ((operands.admits comparison).2 other)
    rw [dif_neg admitted, dif_neg refused, operands.arity]
    by_cases fits : operand'.arity = comparison.arity
    · rw [if_pos fits]
      exact .error _
    · rw [if_neg fits]
      exact .error _

mutual

/-- Parts of one kind, with alike conditions or blocks or with the same text. -/
inductive Part.Alike (R : Value → Value → Prop) : Part → Part → Prop where
  | condition {c c' : Condition} (conditions : c.Alike R c') :
    Part.Alike R (.condition c) (.condition c')
  | group {block block' : Block} (blocks : Block.Alike R block block') :
    Part.Alike R (.group block) (.group block')
  | text (text : String) : Part.Alike R (.text text) (.text text)

/-- Blocks with the same links and with alike parts. -/
inductive Block.Alike (R : Value → Value → Prop) : Block → Block → Prop where
  | empty : Block.Alike R .empty .empty
  | entry (link : Option Combinator) {part part' : Part} {rest rest' : Block}
    (parts : Part.Alike R part part') (others : Block.Alike R rest rest') :
    Block.Alike R (.entry link part rest) (.entry link part' rest')

end

namespace Block

variable {block block' group group' : Block} {part part' : Part}

theorem Alike.isEmpty (blocks : block.Alike R block') : block.isEmpty = block'.isEmpty := by
  cases blocks <;> rfl

/-- The next part of alike blocks is linked in the same way. -/
theorem Alike.nextLink (blocks : block.Alike R block') (requested : Option Combinator) :
    block.nextLink requested = block'.nextLink requested := by
  unfold Block.nextLink
  rw [blocks.isEmpty]

theorem Alike.append {link : Option Combinator} (parts : part.Alike R part') :
    {block block' : Block} → block.Alike R block' →
      (block.append link part).Alike R (block'.append link part')
  | _, _, .empty => .entry link parts .empty
  | _, _, .entry first firsts others => .entry first firsts (Alike.append parts others)

theorem Alike.addCondition {c c' : Condition} (blocks : block.Alike R block')
    (requested : Option Combinator) (conditions : c.Alike R c') :
    (block.addCondition requested c).Alike R (block'.addCondition requested c') := by
  unfold Block.addCondition
  rw [blocks.nextLink]
  exact .append (.condition conditions) blocks

theorem Alike.addGroup (blocks : block.Alike R block') (requested : Option Combinator)
    (groups : group.Alike R group') :
    (block.addGroup requested group).Alike R (block'.addGroup requested group') := by
  unfold Block.addGroup
  rw [groups.isEmpty, blocks.nextLink]
  by_cases vacant : group'.isEmpty = true
  · rw [if_pos vacant, if_pos vacant]
    exact blocks
  · rw [if_neg vacant, if_neg vacant]
    exact .append (.group groups) blocks

theorem Alike.addText (blocks : block.Alike R block') (text : String) :
    (block.addText text).Alike R (block'.addText text) := by
  unfold Block.addText
  rw [blocks.nextLink]
  exact .append (.text text) blocks

theorem vacuous_alike (parts : part.Alike R part') : vacuous part = vacuous part' := by
  cases parts with
  | condition conditions => rfl
  | group blocks => exact blocks.isEmpty
  | text text => rfl

/-- A part is pushed on both sides, or refused for the same reason. -/
theorem push_alike (blocks : block.Alike R block') (link : Option Combinator)
    (parts : part.Alike R part') :
    Outcome.Alike (Block.Alike R) (block.push link part) (block'.push link part') := by
  have pushed : (if vacuous part then block else block.append link part).Alike R
      (if vacuous part' then block' else block'.append link part') := by
    rw [vacuous_alike parts]
    by_cases left : vacuous part' = true
    · rw [if_pos left, if_pos left]
      exact blocks
    · rw [if_neg left, if_neg left]
      exact .append parts blocks
  have shape := blocks.isEmpty
  unfold push
  cases first : block'.isEmpty with
  | true =>
    rw [shape, first]
    cases link with
    | none => exact .ok pushed
    | some combinator => exact .error _
  | false =>
    rw [shape, first]
    cases link with
    | none => exact .error _
    | some combinator => exact .ok pushed

/-- Parts with the same link. -/
def EntryAlike (R : Value → Value → Prop) (entry entry' : Option Combinator × Part) : Prop :=
  entry.1 = entry'.1 ∧ entry.2.Alike R entry'.2

/-- A row of parts becomes a block on both sides, or is refused for the same reason. -/
theorem ofParts_alike {row row' : List (Option Combinator × Part)}
    (rows : List.Forall₂ (EntryAlike R) row row') :
    Outcome.Alike (Block.Alike R) (ofParts row) (ofParts row') := by
  apply Outcome.Alike.foldlM rows .empty
  intro block block' blocks entry entry' entries
  obtain ⟨links, parts⟩ := entries
  simp only
  rw [links]
  exact push_alike blocks _ parts

end Block

mutual

/-- Plans of parts that differ in values only. -/
inductive PartPlan.Alike (R : Value → Value → Prop) : PartPlan → PartPlan → Prop where
  | condition (qualifier column : String) (comparison : Comparison) {operand operand' : Operand}
    (operands : operand.Alike R operand') :
    PartPlan.Alike R (.condition qualifier column comparison operand)
      (.condition qualifier column comparison operand')
  | group {block block' : BlockPlan} (blocks : BlockPlan.Alike R block block') :
    PartPlan.Alike R (.group block) (.group block')
  | text (text : String) : PartPlan.Alike R (.text text) (.text text)

/-- Plans of blocks that differ in values only. -/
inductive BlockPlan.Alike (R : Value → Value → Prop) : BlockPlan → BlockPlan → Prop where
  | empty : BlockPlan.Alike R .empty .empty
  | push (link : Option Combinator) {block block' : BlockPlan} {part part' : PartPlan}
    (blocks : BlockPlan.Alike R block block') (parts : PartPlan.Alike R part part') :
    BlockPlan.Alike R (.push block link part) (.push block' link part')
  | ofParts {row row' : RowPlan} (rows : RowPlan.Alike R row row') :
    BlockPlan.Alike R (.ofParts row) (.ofParts row')
  | addCondition (requested : Option Combinator) (qualifier column : String)
    (comparison : Comparison) {block block' : BlockPlan} {operand operand' : Operand}
    (blocks : BlockPlan.Alike R block block') (operands : operand.Alike R operand') :
    BlockPlan.Alike R (.addCondition block requested qualifier column comparison operand)
      (.addCondition block' requested qualifier column comparison operand')
  | addGroup (requested : Option Combinator) {block block' group group' : BlockPlan}
    (blocks : BlockPlan.Alike R block block') (groups : BlockPlan.Alike R group group') :
    BlockPlan.Alike R (.addGroup block requested group) (.addGroup block' requested group')
  | addText (text : String) {block block' : BlockPlan}
    (blocks : BlockPlan.Alike R block block') :
    BlockPlan.Alike R (.addText block text) (.addText block' text)

/-- Plans of rows that differ in values only. -/
inductive RowPlan.Alike (R : Value → Value → Prop) : RowPlan → RowPlan → Prop where
  | nil : RowPlan.Alike R .nil .nil
  | cons (link : Option Combinator) {part part' : PartPlan} {rest rest' : RowPlan}
    (parts : PartPlan.Alike R part part') (others : RowPlan.Alike R rest rest') :
    RowPlan.Alike R (.cons link part rest) (.cons link part' rest')

end

mutual

/-- Alike plans come to alike parts, or are refused for the same reason. -/
theorem PartPlan.build_alike : {part part' : PartPlan} → part.Alike R part' →
    Outcome.Alike (Part.Alike R) part.build part'.build
  | _, _, .condition qualifier column comparison operands =>
    (Condition.make_alike qualifier column comparison operands).map fun _ _ => .condition
  | _, _, .group blocks => (BlockPlan.build_alike blocks).map fun _ _ => .group
  | _, _, .text text => .ok (.text text)

/-- Alike plans come to alike blocks, or are refused for the same reason. -/
theorem BlockPlan.build_alike : {block block' : BlockPlan} → block.Alike R block' →
    Outcome.Alike (Block.Alike R) block.build block'.build
  | _, _, .empty => .ok .empty
  | _, _, .push link blocks parts => by
    simp only [BlockPlan.build]
    apply (BlockPlan.build_alike blocks).bind
    intro block block' built
    apply (PartPlan.build_alike parts).bind
    intro part part' others
    exact Block.push_alike built link others
  | _, _, .ofParts rows => by
    simp only [BlockPlan.build]
    exact (RowPlan.build_alike rows).bind fun row row' built => Block.ofParts_alike built
  | _, _, .addCondition requested qualifier column comparison blocks operands => by
    simp only [BlockPlan.build]
    apply (BlockPlan.build_alike blocks).bind
    intro block block' built
    have conditions := Condition.make_alike qualifier column comparison operands
    exact conditions.map fun c c' made => built.addCondition requested made
  | _, _, .addGroup requested blocks groups => by
    simp only [BlockPlan.build]
    apply (BlockPlan.build_alike blocks).bind
    intro block block' built
    exact (BlockPlan.build_alike groups).map fun group group' nested =>
      built.addGroup requested nested
  | _, _, .addText text blocks => by
    simp only [BlockPlan.build]
    exact (BlockPlan.build_alike blocks).map fun block block' built => built.addText text

/-- Alike plans come to alike rows, or are refused for the same reason. -/
theorem RowPlan.build_alike : {row row' : RowPlan} → row.Alike R row' →
    Outcome.Alike (List.Forall₂ (Block.EntryAlike R)) row.build row'.build
  | _, _, .nil => .ok .nil
  | _, _, .cons link parts others => by
    simp only [RowPlan.build]
    apply (PartPlan.build_alike parts).bind
    intro part part' built
    exact (RowPlan.build_alike others).map fun rest rest' later => .cons ⟨rfl, built⟩ later

end

/-- Filters of one alias with alike blocks and the same request. -/
structure Filter.Alike (R : Value → Value → Prop) (filter filter' : Filter) : Prop where
  aliasName : filter.aliasName = filter'.aliasName
  block : filter.block.Alike R filter'.block
  pending : filter.pending = filter'.pending

/-- Steps that differ in values only. -/
inductive FilterStep.Alike (R : Value → Value → Prop) : FilterStep → FilterStep → Prop where
  | condition (column : String) (comparison : Comparison) {operand operand' : Operand}
    (operands : operand.Alike R operand') :
    FilterStep.Alike R (.condition column comparison operand)
      (.condition column comparison operand')
  | combinator (combinator : Combinator) :
    FilterStep.Alike R (.combinator combinator) (.combinator combinator)
  | group {other other' : Filter} (filters : other.Alike R other') :
    FilterStep.Alike R (.group other) (.group other')
  | clear : FilterStep.Alike R .clear .clear

namespace Filter

variable {filter filter' other other' : Filter}

theorem Alike.isEmpty (filters : filter.Alike R filter') : filter.isEmpty = filter'.isEmpty :=
  filters.block.isEmpty

theorem alike_empty (aliasName : TableName) : (empty aliasName).Alike R (empty aliasName) :=
  ⟨rfl, .empty, rfl⟩

theorem Alike.clear (filters : filter.Alike R filter') : filter.clear.Alike R filter'.clear := by
  unfold Filter.clear
  rw [filters.aliasName]
  exact alike_empty _

/-- A condition is added on both sides, or refused for the same reason. -/
theorem addCondition_alike (filters : filter.Alike R filter') (column : String)
    (comparison : Comparison) {operand operand' : Operand} (operands : operand.Alike R operand') :
    Outcome.Alike (Filter.Alike R) (filter.addCondition column comparison operand)
      (filter'.addCondition column comparison operand') := by
  unfold addCondition
  rw [filters.aliasName, filters.pending]
  have conditions := Condition.make_alike filter'.aliasName.text column comparison operands
  apply conditions.map
  intro c c' made
  exact ⟨rfl, filters.block.addCondition _ made, rfl⟩

/-- A combinator is requested on both sides, or refused for the same reason. -/
theorem addCombinator_alike (filters : filter.Alike R filter') (combinator : Combinator) :
    Outcome.Alike (Filter.Alike R) (filter.addCombinator combinator)
      (filter'.addCombinator combinator) := by
  unfold addCombinator
  rw [filters.isEmpty, filters.aliasName, filters.pending]
  by_cases vacant : filter'.isEmpty = true
  · rw [if_pos vacant, if_pos vacant]
    exact .error _
  · rw [if_neg vacant, if_neg vacant]
    cases filter'.pending with
    | none => exact .ok ⟨rfl, filters.block, rfl⟩
    | some kept => exact .error _

theorem Alike.addGroup (filters : filter.Alike R filter') (others : other.Alike R other') :
    (filter.addGroup other).Alike R (filter'.addGroup other') := by
  unfold Filter.addGroup
  rw [others.isEmpty, filters.pending]
  by_cases vacant : other'.isEmpty = true
  · rw [if_pos vacant, if_pos vacant]
    exact filters
  · rw [if_neg vacant, if_neg vacant]
    exact ⟨filters.aliasName, filters.block.addGroup _ others.block, rfl⟩

/-- Alike steps change alike filters alike, or are refused for the same reason. -/
theorem step_alike (filters : filter.Alike R filter') {change change' : FilterStep}
    (changes : change.Alike R change') :
    Outcome.Alike (Filter.Alike R) (filter.step change) (filter'.step change') := by
  cases changes with
  | condition column comparison operands =>
    exact addCondition_alike filters column comparison operands
  | combinator combinator => exact addCombinator_alike filters combinator
  | group others => exact .ok (filters.addGroup others)
  | clear => exact .ok filters.clear

/-- A new filter of an alias is alike to itself: it has no values. -/
theorem make_alike (aliasName : String) :
    Outcome.Alike (Filter.Alike R) (make aliasName) (make aliasName) := by
  apply (Outcome.Alike.refl _).map
  intro name name' names
  subst names
  exact alike_empty name

/-- Alike steps build alike filters, or are refused for the same reason. -/
theorem build_alike (aliasName : String) {steps steps' : List FilterStep}
    (changes : List.Forall₂ (FilterStep.Alike R) steps steps') :
    Outcome.Alike (Filter.Alike R) (build aliasName steps) (build aliasName steps') := by
  have made : Outcome.Alike (Filter.Alike R) (make aliasName) (make aliasName) :=
    make_alike aliasName
  unfold build
  apply made.bind
  intro start start' starts
  exact .foldlM changes starts fun filter filter' filters change change' steps =>
    step_alike filters steps

end Filter

/-- Joins of one table, of one kind, with alike conditions. -/
structure Join.Alike (R : Value → Value → Prop) (join join' : Join) : Prop where
  table : join.table = join'.table
  aliasName : join.aliasName = join'.aliasName
  condition : join.condition.Alike R join'.condition
  kind : join.kind = join'.kind
  cardinality : join.cardinality = join'.cardinality

/-- Joins on alike conditions are made on both sides, or refused for the same reason. -/
theorem Join.make_alike (table aliasName : String) {condition condition' : Block}
    (conditions : condition.Alike R condition') (kind : JoinKind) (cardinality : Cardinality) :
    Outcome.Alike (Join.Alike R) (make table aliasName condition kind cardinality)
      (make table aliasName condition' kind cardinality) := by
  unfold make
  apply (Outcome.Alike.refl _).bind
  intro name name' names
  apply (Outcome.Alike.refl _).bind
  intro target target' targets
  subst names targets
  exact .ok ⟨rfl, rfl, conditions, rfl, rfl⟩

/-- The joins of alike lists are counted alike. -/
theorem JoinCounts.of_alike {joins joins' : List Join}
    (lists : List.Forall₂ (Join.Alike R) joins joins') : of joins = of joins' := by
  have counted : ∀ looked : Join → Bool,
      (∀ join join', join.Alike R join' → looked join = looked join') →
        joins.countP looked = joins'.countP looked := by
    intro looked same
    induction lists with
    | nil => rfl
    | cons heads tails ih => rw [List.countP_cons, List.countP_cons, ih, same _ _ heads]
  unfold of
  rw [counted (fun join => join.kind = .inner) fun _ _ joined => by rw [joined.kind],
    counted (fun join => join.kind = .left) fun _ _ joined => by rw [joined.kind],
    counted (fun join => join.cardinality = .oneToOne) fun _ _ joined => by
      rw [joined.cardinality],
    counted (fun join => join.cardinality = .oneToMany) fun _ _ joined => by
      rw [joined.cardinality]]

end BoundSql
