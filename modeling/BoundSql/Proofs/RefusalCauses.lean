import BoundSql.Proofs.Inquiries
import BoundSql.Proofs.NameRules
import BoundSql.Proofs.Writes

/-!
# Causes of refusals

For which causes the errands of a gateway are refused. Everything a gateway keeps was checked when
it was made or changed, so that only the names of its definition are left to fail: a selection is
refused for the first column without a legal name, or because no column is left; a writing for the
first column of the entity without a legal name; and a deletion never. `TableDefinition.refusal?`
reads this off the definition alone, and `EntityGateway.perform_eq_error_iff` is the law.
-/

namespace BoundSql

open Outcome

/-- A column is selected under a legal qualifier unless its name is refused. -/
theorem ProjectedColumn.make_eq_error_iff (qualifier : TableName) (column : String)
    (cause : QueryError) :
    make qualifier.text column = .error cause ↔
      (columnFault? column).map .identifier = some cause := by
  rw [make, TableName.read_text, ← ColumnName.read_eq_error_iff]
  exact map_eq_error

/-- A column is assigned under a legal qualifier unless its name is refused. -/
theorem Assignment.make_eq_error_iff (qualifier : TableName) (column : String) (value : Value)
    (cause : QueryError) :
    make column qualifier.text value = .error cause ↔
      (columnFault? column).map .identifier = some cause := by
  rw [make, TableName.read_text, ← ColumnName.read_eq_error_iff]
  exact map_eq_error

/-- First occurrences are what is left without repetitions and without what was seen before. -/
theorem firstOccurrences_eq_eraseDups (seen names : List String) :
    firstOccurrences seen names = (names.filter (· ∉ seen)).eraseDups := by
  induction names generalizing seen with
  | nil => rfl
  | cons head rest ih =>
    rw [firstOccurrences]
    by_cases known : head ∈ seen
    · simp [known, ih]
    · have unseen : rest.filter (· ∉ head :: seen) =
          (rest.filter (· ∉ seen)).filter (!· == head) := by
        rw [List.filter_filter]
        refine List.filter_congr fun name _ => ?_
        by_cases same : name = head <;> simp [same]
      rw [if_neg known, ih, unseen, List.filter_cons_of_pos (by simpa using known),
        List.eraseDups_cons]

variable {E : Type}

/-- What is asked of a gateway. -/
inductive Errand (E : Type) where
  /-- A selection. -/
  | select (ask : Inquiry)
  /-- The insertion of an entity at some time. -/
  | insert (now : Instant) (entity : E)
  /-- An update at some time. -/
  | update (now : Instant) (entity : E)
  /-- A deletion. -/
  | delete

/-- The statement that an errand comes to, or why it is refused. -/
def EntityGateway.perform (g : EntityGateway E) : Errand E → Except QueryError Query
  | .select ask => (g.answer ask).result
  | .insert now entity => (g.insert now entity).map Prod.fst
  | .update now entity => (g.update now entity).map Prod.fst
  | .delete => .ok g.delete

namespace TableDefinition

/-- The columns of a selection: the default ones and those of the definition, each where it occurs
first, without those the table misses and those that are not asked for. -/
def selected (definition : TableDefinition E) (excluded : List String) : List String :=
  (defaultColumns ++ definition.columns).eraseDups.filter fun name =>
    name ∉ definition.missing ∧ name ∉ excluded

/-- Why an errand is refused, if it is. -/
def refusal? (definition : TableDefinition E) (table : TableName) : Errand E → Option QueryError
  | .select ask =>
    match (definition.selected ask.excluded).findSome? columnFault? with
    | some fault => some (.identifier fault)
    | none => if definition.selected ask.excluded = [] then some (.noColumns table) else none
  | .insert _ entity | .update _ entity =>
    ((definition.columnsOf entity).findSome? columnFault?).map .identifier
  | .delete => none

/-- The selected columns are those a gateway is asked to resolve. -/
theorem selected_eq_names (definition : TableDefinition E) (excluded : List String) :
    definition.selected excluded =
      Projection.names defaultColumns definition.columns (definition.missing ++ excluded) := by
  rw [selected, Projection.names, firstOccurrences_eq_eraseDups]
  simp

/-- A selection is refused either for its first illegal column, or because it has none. -/
theorem refusal?_select_eq_some_iff {definition : TableDefinition E} {table : TableName}
    {ask : Inquiry} {cause : QueryError} :
    definition.refusal? table (.select ask) = some cause ↔
      (∃ fault, (definition.selected ask.excluded).findSome? columnFault? = some fault ∧
        cause = .identifier fault) ∨
      (definition.selected ask.excluded = [] ∧ cause = .noColumns table) := by
  rw [refusal?]
  cases found : (definition.selected ask.excluded).findSome? columnFault? with
  | some fault =>
    have present : definition.selected ask.excluded ≠ [] := by
      intro nothing
      rw [nothing] at found
      cases found
    simp [present, eq_comm]
  | none =>
    by_cases nothing : definition.selected ask.excluded = []
    · simp [nothing, eq_comm]
    · simp [nothing]

/-- A selection is not refused if it has columns and all of them are legal. -/
theorem refusal?_select_eq_none_iff {definition : TableDefinition E} {table : TableName}
    {ask : Inquiry} :
    definition.refusal? table (.select ask) = none ↔
      definition.selected ask.excluded ≠ [] ∧
        ∀ name ∈ definition.selected ask.excluded, columnFault? name = none := by
  rw [← List.findSome?_eq_none_iff, refusal?]
  cases found : (definition.selected ask.excluded).findSome? columnFault? with
  | some fault => simp
  | none => simp

/-- Behind the columns of the entity, a legal stamp is not refused. -/
theorem findSome?_written (definition : TableDefinition E) (stamp : String) (now : Instant)
    (entity : E) (legal : columnFault? stamp = none) :
    ((definition.written stamp now entity).map Prod.fst).findSome? columnFault? =
      (definition.columnsOf entity).findSome? columnFault? := by
  rw [columns_written, List.findSome?_append]
  simp [legal]

end TableDefinition

/-- The columns of a table are refused for the first one whose name is. -/
theorem Projection.resolve_eq_error_iff (qualifier : TableName)
    {defaults columns excluded : List String} {cause : QueryError} :
    resolve qualifier.text defaults columns excluded = .error cause ↔
      ((names defaults columns excluded).findSome? columnFault?).map .identifier = some cause := by
  rw [resolve, mapM_eq_error (ProjectedColumn.make_eq_error_iff qualifier), List.map_findSome?]
  rfl

/-- As many columns are selected as there are names. -/
theorem Projection.length_of_resolve {qualifier : String} {defaults columns excluded : List String}
    {projection : Projection}
    (resolved : resolve qualifier defaults columns excluded = .ok projection) :
    projection.length = (names defaults columns excluded).length :=
  (mapM_eq_ok.1 resolved).length_eq.symm

namespace EntityGateway

variable {g : EntityGateway E}

/-- A selection is refused for its first illegal column, or for want of columns. -/
theorem answer_eq_error_iff (ask : Inquiry) {cause : QueryError} :
    (g.answer ask).result = .error cause ↔
      g.definition.refusal? g.table.name (.select ask) = some cause := by
  obtain ⟨filter, made⟩ := g.exists_filter ask
  have answered := made g.settings
  change g.answer ask = _ at answered
  have unresolved (cause : QueryError) : g.projection ask.excluded = .error cause ↔
      ((g.definition.selected ask.excluded).findSome? columnFault?).map .identifier =
        some cause := by
    rw [TableDefinition.selected_eq_names]
    exact Projection.resolve_eq_error_iff g.table.aliasName
  rw [answered, TableDefinition.refusal?]
  cases found : (g.definition.selected ask.excluded).findSome? columnFault? with
  | some fault =>
    have refused := (unresolved (.identifier fault)).2 (by rw [found]; rfl)
    rw [refused]
    simp [Except.map, Reply.ofSelect]
  | none =>
    obtain ⟨columns, resolved⟩ := (exists_ok_iff_eq_none unresolved).2 (by rw [found]; rfl)
    have vacant : columns = [] ↔ g.definition.selected ask.excluded = [] := by
      rw [← List.length_eq_zero_iff, ← List.length_eq_zero_iff, TableDefinition.selected_eq_names,
        ← Projection.length_of_resolve resolved]
    rw [resolved]
    change (Select.assemble _).map _ = _ ↔ _
    rw [map_eq_error, Select.assemble]
    by_cases nothing : g.definition.selected ask.excluded = []
    · simp [vacant.2 nothing, nothing]
    · simp [mt vacant.1 nothing, nothing]

/-- Writing columns and values is refused for the first illegal column, as long as every list of
assignments of them can be finished. -/
theorem write_eq_error_iff {qualifier : TableName} {pairs : List (String × Value)}
    {finish : List Assignment → Except QueryError Draft} {style : PlaceholderStyle} {stamped : E}
    (finishes : ∀ made : List Assignment, made.map Assignment.pair = pairs →
      ∃ draft, finish made = .ok draft) {cause : QueryError} :
    (do
        let made ← pairs.mapM fun (column, value) => Assignment.make column qualifier.text value
        let draft ← finish made
        return (draft.bake style, stamped)) = Except.error cause ↔
      ((pairs.map Prod.fst).findSome? columnFault?).map .identifier = some cause := by
  have first : (pairs.mapM fun (column, value) => Assignment.make column qualifier.text value) =
      .error cause ↔ ((pairs.map Prod.fst).findSome? columnFault?).map .identifier = some cause := by
    have told (pair : String × Value) (cause : QueryError) :
        (fun (column, value) => Assignment.make column qualifier.text value) pair =
          .error cause ↔ (columnFault? pair.1).map .identifier = some cause :=
      Assignment.make_eq_error_iff qualifier pair.1 pair.2 cause
    rw [mapM_eq_error told, List.findSome?_map, List.map_findSome?]
    rfl
  rw [← first, bind_eq_error]
  refine or_iff_left ?_
  rintro ⟨made, assigned, refused⟩
  obtain ⟨draft, finished⟩ := finishes made (Assignment.mapM_make_eq_ok_iff.1 assigned).1
  rw [finished] at refused
  cases refused

/-- An errand is refused for exactly the cause that the definition of the gateway tells. -/
theorem perform_eq_error_iff (named : g.table.name.text = g.definition.name) {errand : Errand E}
    {cause : QueryError} :
    g.perform errand = .error cause ↔
      g.definition.refusal? g.table.name errand = some cause := by
  cases errand with
  | select ask => exact answer_eq_error_iff ask
  | insert now entity =>
    rw [perform, map_eq_error, insert_eq_mapM, ← named, write_eq_error_iff fun made same => ?_,
      TableDefinition.findSome?_written _ _ _ _ (by decide)]
    · rfl
    · have present := TableDefinition.ne_nil_of_written _ _ _ _ same
      exact ⟨_, if_neg (by simpa using present)⟩
  | update now entity =>
    rw [perform, map_eq_error, update_eq_mapM, write_eq_error_iff fun made same => ?_,
      TableDefinition.findSome?_written _ _ _ _ (by decide)]
    · rfl
    · have present := TableDefinition.ne_nil_of_written _ _ _ _ same
      exact ⟨_, if_neg (by simpa using present)⟩
  | delete => simp [perform, TableDefinition.refusal?]

/-- Selections, with or without an identity, are refused exactly for the first selected column
without a legal name, or if no column is selected; writings exactly for the first column of the
entity without a legal name; and deletions never. What a gateway keeps beside its definition, be it
reached by changes or not, takes no part in this. -/
theorem refusals_exact (reachable : g.Reachable) :
    (∀ ask : Inquiry,
      (∀ cause, g.perform (.select ask) = .error cause ↔
        (∃ fault, (g.definition.selected ask.excluded).findSome? columnFault? = some fault ∧
          cause = .identifier fault) ∨
        (g.definition.selected ask.excluded = [] ∧ cause = .noColumns g.table.name)) ∧
      ((∃ query, g.perform (.select ask) = .ok query) ↔
        g.definition.selected ask.excluded ≠ [] ∧
          ∀ name ∈ g.definition.selected ask.excluded, columnFault? name = none)) ∧
    (∀ now entity, ∀ errand ∈ [Errand.insert now entity, .update now entity],
      (∀ cause, g.perform errand = .error cause ↔
        ∃ fault, (g.definition.columnsOf entity).findSome? columnFault? = some fault ∧
          cause = .identifier fault) ∧
      ((∃ query, g.perform errand = .ok query) ↔
        ∀ name ∈ g.definition.columnsOf entity, columnFault? name = none)) ∧
    (∃ query, g.perform .delete = .ok query) ∧
    (∀ g' : EntityGateway E, g'.Reachable → g'.definition = g.definition →
      ∀ errand cause, g'.perform errand = .error cause ↔ g.perform errand = .error cause) ∧
    ∀ filter ordering joins settings, ∀ errand cause,
      { g with filter, ordering, joins, settings }.perform errand = .error cause ↔
        g.perform errand = .error cause := by
  have named := reachable.named
  have told (errand : Errand E) (cause : QueryError) : g.perform errand = .error cause ↔
      g.definition.refusal? g.table.name errand = some cause :=
    perform_eq_error_iff named
  refine ⟨fun ask => ⟨fun cause => ?_, ?_⟩, fun now entity errand member => ?_, ⟨_, rfl⟩,
    fun g' reachable' same errand cause => ?_, fun filter ordering joins settings errand cause => ?_⟩
  · rw [told, TableDefinition.refusal?_select_eq_some_iff]
  · rw [exists_ok_iff_eq_none (told _), TableDefinition.refusal?_select_eq_none_iff]
  · have writing : g.definition.refusal? g.table.name errand =
        ((g.definition.columnsOf entity).findSome? columnFault?).map .identifier := by
      rcases List.mem_pair.1 member with rfl | rfl <;> rfl
    constructor
    · intro cause
      rw [told, writing, Option.map_eq_some_iff]
      simp only [eq_comm]
    · rw [exists_ok_iff_eq_none (told _), writing, Option.map_eq_none_iff,
        List.findSome?_eq_none_iff]
  · have tables : g'.table.name = g.table.name := by
      refine TableName.eq_of_toList (congrArg String.toList ?_)
      rw [reachable'.named, same, named]
    rw [told, perform_eq_error_iff reachable'.named, same, tables]
  · rw [told]
    exact perform_eq_error_iff (g := { g with filter, ordering, joins, settings }) named

end EntityGateway

namespace Sample

/-- A table of accounts without times, one of whose columns is misnamed. -/
def accounts : TableDefinition (Option Value) :=
  { name := "accounts", defaultAlias := "a", columns := ["owner", "net sum", "id"]
    missing := ["created_at", "modified_at"], writable := [⟨"net sum", id⟩]
    stampCreated := fun _ row => row, stampModified := fun _ row => row }

/-- A new gateway of that table. -/
def ledger : EntityGateway (Option Value) :=
  let aliasName : TableName := ⟨"a", by decide +kernel⟩
  { definition := accounts, table := ⟨⟨"accounts", by decide +kernel⟩, aliasName⟩
    settings := default, filter := .empty aliasName, ordering := .empty aliasName, joins := [] }

/-- It is made by its default alias. -/
theorem reachable_ledger : ledger.Reachable := by
  have made : EntityGateway.makeAs accounts ledger.table.aliasName.text default = .ok ledger :=
    map_eq_ok.2 ⟨ledger.table, ledger.table.make_names, rfl⟩
  exact .make made

end Sample

/-- The misnamed column is refused where it is selected or written, the selection of no column
where all are excluded, and nothing else. -/
theorem EntityGateway.refusals_exact_ledger :
    Sample.ledger.Reachable ∧
    Sample.ledger.perform (.select (.all [])) =
      .error (.identifier (.character "net sum")) ∧
    Sample.ledger.perform (.select (.one (.integer 7) ["id", "owner", "net sum"])) =
      .error (.noColumns Sample.ledger.table.name) ∧
    (∃ query, Sample.ledger.perform (.select (.one (.integer 7) ["net sum"])) = .ok query) ∧
    Sample.ledger.perform (.insert ⟨0, 0⟩ (some .null)) =
      .error (.identifier (.character "net sum")) ∧
    (∃ query, Sample.ledger.perform (.update ⟨0, 0⟩ none) = .ok query) ∧
    ∃ query, Sample.ledger.perform .delete = .ok query := by
  obtain ⟨selecting, writing, deleting, _⟩ := refusals_exact Sample.reachable_ledger
  refine ⟨Sample.reachable_ledger, ?_, ?_, ?_, ?_, ?_, deleting⟩
  · exact ((selecting (.all [])).1 _).2 (.inl ⟨.character "net sum", by decide +kernel, rfl⟩)
  · exact ((selecting (.one (.integer 7) ["id", "owner", "net sum"])).1 _).2
      (.inr ⟨by decide +kernel, rfl⟩)
  · exact (selecting (.one (.integer 7) ["net sum"])).2.2 (by decide +kernel)
  · exact ((writing ⟨0, 0⟩ (some .null) _ List.mem_cons_self).1 _).2
      ⟨.character "net sum", by decide +kernel, rfl⟩
  · exact (writing ⟨0, 0⟩ none _ (List.mem_cons_of_mem _ List.mem_cons_self)).2.2
      (by decide +kernel)

end BoundSql
