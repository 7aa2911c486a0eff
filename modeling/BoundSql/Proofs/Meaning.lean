import BoundSql.Proofs.Combination

/-!
# What a filter means

A filter is read as a database reads it, once it is known which conditions and which raw texts
are true of a row: AND binds tighter than OR between the parts of one block, and a nested block
is one operand. `Block.holds` gathers the operands of AND from left to right and gives the truth
of the stretch to OR at its end; `Block.holds_eq_runs` says that this is the truth of some
stretch between two ORs, all of whose parts are true.

Filters that are combined are nested side by side, so a composite selects what all of its filters
select, or what any of them does, whatever ORs stand in them
(`CompositeGateway.combinedFilter_holds`).
-/

namespace BoundSql

/-- Which conditions and which raw texts are true of a row. -/
structure Valuation where
  /-- The truth of a condition. -/
  condition : Condition → Bool
  /-- The truth of a raw text. -/
  text : String → Bool

mutual

/-- Whether a part is true. A nested block is one operand. -/
def Part.holds (v : Valuation) : Part → Bool
  | .condition condition => v.condition condition
  | .group block => block.holds v
  | .text text => v.text text

/-- Whether a block is true. One without parts admits every row. -/
def Block.holds (v : Valuation) : Block → Bool
  | .empty => true
  | .entry _ part rest => rest.holdsBehind v (part.holds v)

/-- Whether a row of parts is true behind operands of AND that come to `run`. -/
def Block.holdsBehind (v : Valuation) : Block → Bool → Bool
  | .empty, run => run
  | .entry (some .or) part rest, run => run || rest.holdsBehind v (part.holds v)
  | .entry _ part rest, run => rest.holdsBehind v (run && part.holds v)

end

namespace Block

/-- The stretches of a row from one OR to the next, where the parts `run` stand before it. -/
def runsBehind : Block → List Part → List (List Part)
  | empty, run => [run]
  | entry (some .or) part rest, run => run :: rest.runsBehind [part]
  | entry _ part rest, run => rest.runsBehind (run ++ [part])

/-- The stretches of a block from one OR to the next. -/
def runs : Block → List (List Part)
  | empty => [[]]
  | entry _ part rest => rest.runsBehind [part]

/-- Behind a stretch a row is true if one of its stretches is. -/
theorem holdsBehind_eq_runs (v : Valuation) : (block : Block) → (run : List Part) →
    block.holdsBehind v (run.all (·.holds v)) =
      (block.runsBehind run).any fun run => run.all (·.holds v)
  | empty, run => by simp [holdsBehind, runsBehind]
  | entry (some .or) part rest, run => by
    have later := holdsBehind_eq_runs v rest [part]
    simp only [List.all_cons, List.all_nil, Bool.and_true] at later
    simp only [holdsBehind, runsBehind, List.any_cons, later]
  | entry (some .and) part rest, run => by
    have longer := holdsBehind_eq_runs v rest (run ++ [part])
    simp only [List.all_append, List.all_cons, List.all_nil, Bool.and_true] at longer
    exact longer
  | entry none part rest, run => by
    have longer := holdsBehind_eq_runs v rest (run ++ [part])
    simp only [List.all_append, List.all_cons, List.all_nil, Bool.and_true] at longer
    exact longer

/-- A block is true if all parts of one of its stretches are. -/
theorem holds_eq_runs (v : Valuation) (block : Block) :
    block.holds v = block.runs.any fun run => run.all (·.holds v) := by
  cases block with
  | empty => rfl
  | entry link part rest =>
    have stretches := holdsBehind_eq_runs v rest [part]
    simp only [List.all_cons, List.all_nil, Bool.and_true] at stretches
    exact stretches

/-- Blocks nested behind ANDs go on with the same stretch. -/
theorem runsBehind_and (others : List Block) (run : List Part) :
    (ofEntries (others.map fun other => (some .and, .group other))).runsBehind run =
      [run ++ others.map .group] := by
  induction others generalizing run with
  | nil => simp [ofEntries, runsBehind]
  | cons other rest ih => simp [ofEntries, runsBehind, ih]

/-- Blocks nested behind ORs are stretches of their own. -/
theorem runsBehind_or (others : List Block) (run : List Part) :
    (ofEntries (others.map fun other => (some .or, .group other))).runsBehind run =
      run :: others.map fun other => [.group other] := by
  induction others generalizing run with
  | nil => rfl
  | cons other rest ih => simp [ofEntries, runsBehind, ih]

/-- Blocks side by side are true, with AND between them, if all of them are. -/
theorem holds_sideBySide_and (v : Valuation) (blocks : List Block) :
    (sideBySide .and blocks).holds v = blocks.all (·.holds v) := by
  match blocks with
  | [] => rfl
  | [single] => simp [sideBySide]
  | first :: second :: others =>
    have row : (sideBySide .and (first :: second :: others)).runs =
        [.group first :: (second :: others).map .group] :=
      runsBehind_and (second :: others) [.group first]
    rw [holds_eq_runs, row]
    simp [Part.holds, Function.comp_def]

/-- Blocks side by side are true, with OR between them, if any of them is. -/
theorem holds_sideBySide_or (v : Valuation) {blocks : List Block} (present : blocks ≠ []) :
    (sideBySide .or blocks).holds v = blocks.any (·.holds v) := by
  match blocks with
  | [] => exact absurd rfl present
  | [single] => simp [sideBySide]
  | first :: second :: others =>
    have row : (sideBySide .or (first :: second :: others)).runs =
        [.group first] :: (second :: others).map fun other => [.group other] :=
      runsBehind_or (second :: others) [.group first]
    rw [holds_eq_runs, row]
    simp [Part.holds, Function.comp_def]

end Block

namespace CompositeGateway

variable {E : Type}

/-- Where the members take part, all filters that have parts do. -/
theorem mem_partaking_iff {c : CompositeGateway E} (automatic : c.combination.automatic = true)
    {filter : Filter} :
    filter ∈ c.partaking ↔
      filter ∈ c.members.map (·.filter) ++ [c.base.filter] ∧ filter.block ≠ .empty := by
  rw [← filters_eq_partaking, filters, if_pos automatic, List.mem_filter]
  rw [Bool.not_eq_true', ← Bool.not_eq_true, Filter.isEmpty_iff]

/-- Combined filters keep their meaning, whatever ORs they contain: with AND between them the
combination is true if every filter that has parts is, and with OR if at least one of them is. -/
theorem combinedFilter_holds {c : CompositeGateway E} (v : Valuation)
    (automatic : c.combination.automatic = true)
    (present : ∃ filter ∈ c.members.map (·.filter) ++ [c.base.filter], filter.block ≠ .empty) :
    ∃ combined, c.combinedFilter = .ok combined ∧
      (c.combination.combinator = .and →
        (combined.block.holds v = true ↔
          ∀ filter ∈ c.members.map (·.filter) ++ [c.base.filter],
            filter.block ≠ .empty → filter.block.holds v = true)) ∧
      (c.combination.combinator = .or →
        (combined.block.holds v = true ↔
          ∃ filter ∈ c.members.map (·.filter) ++ [c.base.filter],
            filter.block ≠ .empty ∧ filter.block.holds v = true)) := by
  obtain ⟨combined, made, result⟩ := c.combinedFilter_combined
  refine ⟨combined, made, ?_, ?_⟩
  · intro all
    rw [result.block_eq, all, Block.holds_sideBySide_and, List.all_map, List.all_eq_true]
    simp only [mem_partaking_iff automatic, and_imp, Function.comp_apply]
  · intro any
    have some : c.partaking.map (·.block) ≠ [] := by
      obtain ⟨filter, member, filled⟩ := present
      exact List.ne_nil_of_mem
        (List.mem_map_of_mem ((mem_partaking_iff automatic).2 ⟨member, filled⟩))
    rw [result.block_eq, any, Block.holds_sideBySide_or v some, List.any_map, List.any_eq_true]
    simp only [mem_partaking_iff automatic, and_assoc, Function.comp_apply]

end CompositeGateway

namespace Sample

/-- The condition `u.name IS NULL`. -/
def nameless : Condition := ⟨some users.aliasName, named.column, .isNull, .none, by decide⟩

/-- The condition `p.points < 100`. -/
def junior : Condition :=
  ⟨some profiles.aliasName, ⟨"points", by decide⟩, .less, .single (.integer 100), by decide⟩

/-- A gateway of a table that keeps a filter. -/
def keeper (table : TableRef) (block : Block) : EntityGateway Unit :=
  { definition :=
      { name := table.name.text, defaultAlias := table.aliasName.text, columns := [], missing := []
        writable := [], stampCreated := fun _ row => row, stampModified := fun _ row => row }
    table, settings := default, filter := ⟨table.aliasName, block, none⟩
    ordering := .empty table.aliasName, joins := [] }

/-- Users by `u.id IN (1, 2) OR u.name IS NULL`, with their profiles by `p.points < 100`, and with
other profiles by no filter. -/
def ranked : CompositeGateway Unit :=
  { base := keeper users ((Block.empty.addCondition none listed).addCondition (some .or) nameless)
    members := [keeper ⟨profiles.table, profiles.aliasName⟩ (Block.empty.addCondition none junior),
      keeper ⟨profiles.table, users.aliasName⟩ .empty]
    combination := {} }

end Sample

/-- A user without a name whose profile has too many points is not selected, although one of
the conditions linked by OR is true of it. -/
theorem CompositeGateway.combinedFilter_holds_ranked :
    Sample.ranked.combination.automatic = true ∧
    (∃ filter ∈ Sample.ranked.members.map (·.filter) ++ [Sample.ranked.base.filter],
      filter.block ≠ .empty) ∧
    ∃ combined, Sample.ranked.combinedFilter = .ok combined ∧
      combined.block.holds ⟨(· == Sample.nameless), fun _ => false⟩ = false := by
  have present : ∃ filter ∈ Sample.ranked.members.map (·.filter) ++ [Sample.ranked.base.filter],
      filter.block ≠ .empty :=
    ⟨Sample.ranked.base.filter, by simp, Block.append_ne_empty _ _ _⟩
  obtain ⟨combined, made, all, _⟩ := combinedFilter_holds (c := Sample.ranked)
    ⟨(· == Sample.nameless), fun _ => false⟩ rfl present
  refine ⟨rfl, present, combined, made, ?_⟩
  rw [← Bool.not_eq_true, all rfl]
  intro every
  let other := Sample.keeper ⟨Sample.profiles.table, Sample.profiles.aliasName⟩
    (Block.empty.addCondition none Sample.junior)
  have junior := every other.filter (by simp [other, Sample.ranked]) (Block.append_ne_empty _ _ _)
  exact absurd junior (by decide +kernel)

end BoundSql
