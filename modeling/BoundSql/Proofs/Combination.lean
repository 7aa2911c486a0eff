import BoundSql.Gateway.Composite
import BoundSql.Proofs.StatementText

/-!
# Combined filters

The filter a composite selects by. The filters of the members and the composite's own are
put together by requests for a combinator and by nesting, both of which a filter may refuse
or pass over; on filters that have parts neither happens, so the combination never fails and
every filter stands in it once, in order (`CompositeGateway.combinedFilter_eq`).

Only the blocks of the filters matter: `Block.sideBySide` gives the block of the combination
from theirs alone, and with it the values a selection binds. What combinators the filters
wait for makes no difference to a selection.
-/

namespace BoundSql

open Outcome

/-- What several filters are combined to: a new filter for none, the only one as it is, and
several nested side by side, with the combinator before every one but the first. -/
def Filter.Combined (aliasName : TableName) (combinator : Combinator) :
    List Filter → Filter → Prop
  | [], combined => combined = .empty aliasName
  | [single], combined => combined = single
  | first :: second :: others, combined =>
    combined.aliasName = aliasName ∧ combined.pending = none ∧
      combined.block.entries = (none, .group first.block) ::
        (second :: others).map fun other => (some combinator, .group other.block)

/-- The block of several combined filters, from their blocks. -/
def Block.sideBySide (combinator : Combinator) : List Block → Block
  | [] => .empty
  | [single] => single
  | first :: second :: others =>
    .ofEntries ((none, .group first) ::
      (second :: others).map fun other => (some combinator, .group other))

namespace Filter

/-- The block of a combination depends on the blocks of the filters alone. -/
theorem Combined.block_eq {aliasName : TableName} {combinator : Combinator} {filters : List Filter}
    {combined : Filter} (result : Combined aliasName combinator filters combined) :
    combined.block = Block.sideBySide combinator (filters.map (·.block)) := by
  match filters, result with
  | [], result =>
    rw [result]
    rfl
  | [single], result =>
    rw [result]
    rfl
  | first :: second :: others, ⟨_, _, entries⟩ =>
    rw [← Block.ofEntries_entries combined.block, entries]
    simp [Block.sideBySide, Function.comp_def]

/-- A filter that has parts and waits for nothing nests another one behind the combinator. -/
theorem addCombinator_addGroup {combined other : Filter} (filled : combined.block ≠ .empty)
    (free : combined.pending = none) (present : other.block ≠ .empty) (combinator : Combinator) :
    (combined.addCombinator combinator).map (·.addGroup other) =
      .ok { combined with
        block := combined.block.append (some combinator) (.group other.block) } := by
  have requested : combined.addCombinator combinator =
      .ok { combined with pending := some combinator } :=
    step_eq_ok_iff.2 (.combinator filled free)
  have link : combined.block.nextLink (some combinator) = some combinator := by
    rw [Block.nextLink, if_neg fun vacant => filled (Block.isEmpty_iff.1 vacant)]
    rfl
  rw [requested, Except.map, addGroup_present present, extend, link, ← free]

/-- So it nests any number of them, one after the other. -/
theorem foldlM_addGroup {others : List Filter} {combined : Filter}
    (filled : combined.block ≠ .empty) (free : combined.pending = none)
    (present : ∀ other ∈ others, other.block ≠ .empty) (combinator : Combinator) :
    others.foldlM
        (fun combined other => (combined.addCombinator combinator).map (·.addGroup other))
        combined =
      .ok { combined with
        block := .ofEntries (combined.block.entries ++
          others.map fun other => (some combinator, .group other.block)) } := by
  induction others generalizing combined with
  | nil => simp [pure, Except.pure]
  | cons other rest ih =>
    have first := addCombinator_addGroup filled free (present other List.mem_cons_self) combinator
    have grown := Block.append_ne_empty (some combinator) (.group other.block) combined.block
    have others : ∀ next ∈ rest, next.block ≠ .empty := fun next member =>
      present next (List.mem_cons_of_mem other member)
    rw [List.foldlM_cons, first]
    -- What the first of them leaves has parts and waits for nothing, as at the start.
    refine (ih ?filled ?free others).trans ?_
    case filled => exact grown
    case free => exact free
    simp

end Filter

namespace CompositeGateway

variable {E : Type}

/-- Filters that have parts are combined without fail. -/
theorem combine_combined (aliasName : TableName) (combinator : Combinator) {filters : List Filter}
    (present : ∀ filter ∈ filters, filter.block ≠ .empty) :
    ∃ combined, combine aliasName combinator filters = .ok combined ∧
      Filter.Combined aliasName combinator filters combined := by
  match filters with
  | [] => exact ⟨_, rfl, rfl⟩
  | [single] => exact ⟨single, rfl, rfl⟩
  | first :: second :: others =>
    let start : Filter := ⟨aliasName, .entry none (.group first.block) .empty, none⟩
    have made : (Filter.empty aliasName).addGroup first = start :=
      Filter.addGroup_present (present first List.mem_cons_self)
    have filled : start.block ≠ .empty := Block.append_ne_empty none (.group first.block) .empty
    have later : ∀ other ∈ second :: others, other.block ≠ .empty := fun other member =>
      present other (List.mem_cons_of_mem first member)
    have nested := Filter.foldlM_addGroup filled rfl later combinator
    rw [← made] at nested
    refine ⟨_, nested, ?_, ?_, ?_⟩
    · rw [made]
    · rw [made]
    · rw [Block.entries_ofEntries, made]
      rfl

/-- The filters that take part in a selection: those of the members that have parts, in
order, if the members take part at all, and the composite's own behind them if it has parts. -/
def partaking (c : CompositeGateway E) : List Filter :=
  (if c.combination.automatic then (c.members.map (·.filter)).filter (!·.isEmpty) else []) ++
    if c.base.filter.isEmpty then [] else [c.base.filter]

/-- The composite with other combinators waited for: by its own filter, and by the filter of
each member. -/
def waiting (c : CompositeGateway E) (own : Option Combinator)
    (others : Nat → Option Combinator) : CompositeGateway E :=
  { c with
    base := { c.base with filter := { c.base.filter with pending := own } }
    members := c.members.mapIdx fun place member =>
      { member with filter := { member.filter with pending := others place } } }

/-- The filters that are combined are those that take part. -/
theorem filters_eq_partaking (c : CompositeGateway E) : c.filters = c.partaking := by
  unfold filters partaking
  rw [List.filter_append]
  congr 1
  · cases c.combination.automatic <;> rfl
  · cases vacant : c.base.filter.isEmpty <;> simp [vacant]

/-- The filters that take part have parts. -/
theorem partaking_present (c : CompositeGateway E) :
    ∀ filter ∈ c.partaking, filter.block ≠ .empty := by
  intro filter member
  rw [← filters_eq_partaking, filters] at member
  have filled := (List.mem_filter.1 member).2
  intro vacant
  rw [Filter.isEmpty, vacant] at filled
  exact absurd filled (by decide)

/-- The combination of a composite never fails. -/
theorem combinedFilter_combined (c : CompositeGateway E) :
    ∃ combined, c.combinedFilter = .ok combined ∧
      Filter.Combined c.base.table.aliasName c.combination.combinator c.partaking combined := by
  rw [combinedFilter, filters_eq_partaking]
  exact combine_combined _ _ c.partaking_present

/-- The blocks that take part, from those of the members and the composite's own. -/
theorem partaking_blocks (c : CompositeGateway E) :
    c.partaking.map (·.block) =
      (if c.combination.automatic then
        (c.members.map (·.filter.block)).filter (!·.isEmpty) else []) ++
      if c.base.filter.block.isEmpty then [] else [c.base.filter.block] := by
  unfold partaking
  rw [List.map_append]
  congr 1
  · cases c.combination.automatic with
    | false => rfl
    | true =>
      simp only [if_true]
      rw [List.filter_map, List.filter_map, List.map_map]
      rfl
  · rw [Filter.isEmpty]
    cases c.base.filter.block.isEmpty <;> rfl

/-- A selection by the kept filters is one by the blocks that take part. -/
theorem get_eq (c : CompositeGateway E) (excluded : List String) :
    c.get excluded = Reply.ofSelect c.base.settings
      ((c.projection excluded).map fun columns =>
        { table := c.base.table, columns, joins := c.base.joins
          filter := Block.sideBySide c.combination.combinator (c.partaking.map (·.block))
          orderings := c.orderings }) := by
  obtain ⟨combined, made, result⟩ := c.combinedFilter_combined
  rw [get, made, ← result.block_eq]
  cases c.projection excluded <;> rfl

/-- A list of blocks, side by side, binds the values of each, in order. -/
theorem values_sideBySide (combinator : Combinator) (blocks : List Block) :
    (Block.sideBySide combinator blocks).values = blocks.flatMap Block.values := by
  have nested : ∀ others : List Block,
      (Block.ofEntries (others.map fun other => (some combinator, .group other))).values =
        others.flatMap Block.values := by
    intro others
    induction others with
    | nil => rfl
    | cons other rest ih =>
      rw [List.map_cons, Block.ofEntries, Block.values, ih, Part.values, List.flatMap_cons]
  rcases blocks with _ | ⟨first, _ | ⟨second, others⟩⟩
  · rfl
  · simp [Block.sideBySide]
  · rw [Block.sideBySide, Block.ofEntries, Block.values, nested, Part.values]
    rfl

/-- A view of the members that is blind to what their filters wait for stays as it is. -/
theorem map_waiting {α : Type} {view : EntityGateway E → α}
    (blind : ∀ member pending,
      view { member with filter := { member.filter with pending } } = view member)
    (c : CompositeGateway E) (own : Option Combinator) (others : Nat → Option Combinator) :
    (c.waiting own others).members.map view = c.members.map view := by
  apply List.ext_getElem
  · simp [waiting]
  · intro place _ _
    simp [waiting, blind]

/-- What combinators the filters wait for leaves the columns of a selection as they are. -/
theorem projection_waiting (c : CompositeGateway E) (own : Option Combinator)
    (others : Nat → Option Combinator) (excluded : List String) :
    (c.waiting own others).projection excluded = c.projection excluded := by
  have tables : ∀ d : CompositeGateway E, d.projection excluded =
      ((d.base.projection excluded :: d.members.map (·.projection excluded)).mapM id).map
        List.flatten := by
    intro d
    rw [← List.map_cons (f := fun table : EntityGateway E => table.projection excluded),
      List.mapM_map]
    rfl
  rw [tables, tables, map_waiting fun _ _ => rfl]
  rfl

/-- Nor does it make a difference to the orderings. -/
theorem orderings_waiting (c : CompositeGateway E) (own : Option Combinator)
    (others : Nat → Option Combinator) : (c.waiting own others).orderings = c.orderings := by
  rw [orderings, orderings, map_waiting fun _ _ => rfl]
  rfl

/-- Nor to the blocks that take part. -/
theorem partaking_waiting (c : CompositeGateway E) (own : Option Combinator)
    (others : Nat → Option Combinator) :
    (c.waiting own others).partaking.map (·.block) = c.partaking.map (·.block) := by
  rw [partaking_blocks, partaking_blocks, map_waiting fun _ _ => rfl]
  rfl

/-- Filters are combined without fail. The combination has every filter that takes part once,
in order: a new filter for none, the only one as it is, and several nested side by side with
the combinator of the composite between them and none waited for. So a selection binds the
values of its joins and then those of the filters, in order, and what combinators the filters
wait for makes no difference to it. -/
theorem combinedFilter_eq (c : CompositeGateway E) :
    (∃ combined, c.combinedFilter = .ok combined ∧
      Filter.Combined c.base.table.aliasName c.combination.combinator c.partaking combined) ∧
    (∀ excluded, (c.get excluded).result.map (·.params) =
      (c.projection excluded).bind fun columns =>
        if columns = [] then .error (.noColumns c.base.table.name)
        else .ok (c.base.joins.flatMap (·.condition.values) ++
          c.partaking.flatMap (·.block.values))) ∧
    (∀ own others excluded, (c.waiting own others).get excluded = c.get excluded) := by
  refine ⟨c.combinedFilter_combined, ?_, ?_⟩
  · intro excluded
    rw [get_eq]
    cases c.projection excluded with
    | error cause => rfl
    | ok columns =>
      by_cases vacant : columns = []
      · simp [Reply.ofSelect, Select.reply, Select.assemble, vacant, Except.map, Except.bind]
      · let query : Select :=
          { table := c.base.table, columns, joins := c.base.joins
            filter := Block.sideBySide c.combination.combinator (c.partaking.map (·.block))
            orderings := c.orderings }
        have assembled : query.assemble = .ok query.draft.canonical :=
          Select.assemble_eq_ok vacant
        change Except.map _ (Except.map _ query.assemble) = if columns = [] then _ else _
        rw [assembled, if_neg vacant, Except.map, Except.map]
        rw [Draft.params_bake, Draft.values_canonical, Select.values_draft, values_sideBySide,
          List.flatMap_map]
  · intro own others excluded
    rw [get_eq, get_eq, projection_waiting, partaking_waiting, orderings_waiting]
    rfl

end CompositeGateway

end BoundSql
