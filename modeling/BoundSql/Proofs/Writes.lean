import BoundSql.Proofs.Answers
import BoundSql.Proofs.StatementText

/-!
# Written rows

An insertion and an update name the columns the entity has a value for, in the order of its
definition, and behind them the column of the time; the values are bound in the order of the columns
(`EntityGateway.writes_exact`). Names and values come from one list of assignments, and the texts
are compared with theirs by numbering the values of a draft from any start (`Draft.numbered`).

Nobody looks whether the definition writes the column of the time itself. Where it does, and the
entity has a value for it, the column is named twice, and only then
(`EntityGateway.columns_nodup_iff`).
-/

namespace BoundSql

open Outcome

namespace Draft

/-- The text of a draft whose values are numbered behind `bound` others. -/
def numbered (style : PlaceholderStyle) (bound : Nat) (draft : Draft) : String :=
  String.join (marked style bound draft)

variable (style : PlaceholderStyle) (bound : Nat)

@[simp] theorem numbered_nil : numbered style bound [] = "" := rfl

/-- A text is written as it is. -/
@[simp] theorem numbered_text (s : String) : numbered style bound (text s) = s := by
  simp [numbered, text, marked, String.join_cons]

/-- A value is written as the placeholder of its number. -/
@[simp] theorem numbered_param (v : Value) :
    numbered style bound (param v) = style.mark (bound + 1) := by
  simp [numbered, param, marked, String.join_cons]

/-- A composed draft is numbered through. -/
theorem numbered_append (first second : Draft) :
    numbered style bound (first ++ second) =
      numbered style bound first ++ numbered style (bound + first.paramCount) second := by
  rw [numbered, marked_append, String.join_append, numbered, numbered]

/-- A draft that binds nothing has one text, whatever is bound before it. -/
theorem numbered_of_values_eq_nil {draft : Draft} (free : draft.values = []) :
    numbered style bound draft = draft.sql := by
  induction draft generalizing bound with
  | nil => rfl
  | cons piece rest ih =>
    cases piece with
    | text s =>
      have parts : (.text s :: rest : Draft) = text s ++ rest := rfl
      rw [parts, numbered_append, numbered_text, sql_append, sql_text, ih _ free]
    | param v => cases free

/-- Behind a draft that binds nothing the numbers go on from where they were. -/
theorem numbered_append_of_values_eq_nil {first : Draft} (free : first.values = [])
    (second : Draft) :
    numbered style bound (first ++ second) = first.sql ++ numbered style bound second := by
  rw [numbered_append, numbered_of_values_eq_nil style bound free, paramCount, free]
  rfl

/-- Items that bind one value each are numbered one after the other. -/
theorem numbered_separated {α : Type} (separator : String) {write : α → Draft}
    (single : ∀ item, (write item).paramCount = 1) (items : List α) :
    numbered style bound (separated separator write items) =
      separator.intercalate
        ((items.zipIdx bound).map fun (item, before) => numbered style before (write item)) := by
  induction items generalizing bound with
  | nil => simp [separated]
  | cons item rest ih =>
    cases rest with
    | nil => simp [separated]
    | cons next more =>
      have before : (write item ++ text separator).paramCount = 1 := by
        rw [paramCount, values_append, values_text, List.append_nil]
        exact single item
      rw [separated, numbered_append, numbered_append, numbered_text, before, ih]
      · exact String.intercalate_cons_cons.symm
      · exact List.cons_ne_nil next more

/-- The finished form of a draft is numbered alike. -/
theorem numbered_canonical (draft : Draft) :
    numbered style bound draft.canonical = numbered style bound draft := by
  apply String.toList_injective
  rw [numbered, numbered, toList_join_marked, toList_join_marked, symbols_canonical]

/-- The finished form of a draft has its text and its values, in any style. -/
theorem bake_canonical_numbered (draft : Draft) :
    draft.canonical.bake style = { text := draft.numbered style 0, params := draft.values } := by
  rw [← numbered_canonical, ← values_canonical]
  rfl

end Draft

/-- The text of an insertion into columns of a table, each qualified with its name. -/
def insertionText (style : PlaceholderStyle) (table : String) (columns : List String) : String :=
  "INSERT INTO " ++ table ++ "( " ++
    ", ".intercalate (columns.map fun column => table ++ "." ++ column) ++ " ) VALUES( " ++
    ", ".intercalate (columns.zipIdx.map fun (_, before) => style.mark (before + 1)) ++ " )"

/-- The text of an update of columns of a table, each qualified with the alias. The values of the
filter are numbered behind those of the columns. -/
def updateText (style : PlaceholderStyle) (table aliasName : String) (columns : List String)
    (filter : Block) : String :=
  "UPDATE " ++ table ++ " " ++ aliasName ++ " SET " ++
    ", ".intercalate (columns.zipIdx.map fun (column, before) =>
      aliasName ++ ".`" ++ column ++ "` = " ++ style.mark (before + 1)) ++
    (whereDraft none filter).numbered style columns.length

namespace Assignment

/-- A column can be assigned exactly if it is legal. -/
theorem exists_make_iff (qualifier : TableName) {column : String} {value : Value} :
    (∃ a, make column qualifier.text value = .ok a) ↔ columnFault? column = none := by
  simp only [make_eq_ok_iff]
  constructor
  · rintro ⟨a, same, _⟩
    cases same
    exact a.column.legal
  · intro legal
    exact ⟨⟨⟨column, legal⟩, qualifier, value⟩, rfl, rfl⟩

/-- Columns can be assigned exactly if all of them are legal. -/
theorem exists_mapM_make_iff (qualifier : TableName) {pairs : List (String × Value)} :
    (∃ made, pairs.mapM (fun (column, value) => make column qualifier.text value) = .ok made) ↔
      ∀ column ∈ pairs.map Prod.fst, columnFault? column = none := by
  rw [exists_mapM_iff, List.forall_mem_map]
  exact forall₂_congr fun given _ => exists_make_iff qualifier

/-- An assignment is written with the placeholder of its number. -/
theorem numbered_draft (style : PlaceholderStyle) (before : Nat) (a : Assignment) :
    a.draft.numbered style before =
      a.qualifier.text ++ ".`" ++ a.column.text ++ "` = " ++ style.mark (before + 1) := by
  simp only [draft, Draft.numbered_append, Draft.numbered_text, Draft.numbered_param]
  rfl

variable {qualifier : String} {assignments : List Assignment}

/-- The names of numbered assignments are numbered alike. -/
theorem zipIdx_columns (assignments : List Assignment) :
    (assignments.map (·.column.text)).zipIdx =
      assignments.zipIdx.map fun (a, before) => (a.column.text, before) := by
  rw [List.zipIdx_map]
  rfl

/-- The targets of assignments with one qualifier are their columns, behind it. -/
theorem sql_targets (own : ∀ a ∈ assignments, a.qualifier.text = qualifier) :
    assignments.map (fun a => a.targetDraft.sql) =
      (assignments.map (·.column.text)).map fun column => qualifier ++ "." ++ column := by
  rw [List.map_map]
  refine List.map_congr_left fun a member => ?_
  rw [sql_targetDraft, own a member, Function.comp_apply]

/-- The values of assignments are written with their numbers. -/
theorem numbered_params (style : PlaceholderStyle) (assignments : List Assignment) :
    assignments.zipIdx.map (fun (a, before) => (Draft.param a.value).numbered style before) =
      (assignments.map (·.column.text)).zipIdx.map fun (_, before) => style.mark (before + 1) := by
  rw [zipIdx_columns, List.map_map]
  refine List.map_congr_left ?_
  rintro ⟨a, before⟩ _
  exact Draft.numbered_param style before a.value

/-- Assignments with one qualifier are written by their columns, behind it, and with the numbers of
their values. -/
theorem numbered_drafts (style : PlaceholderStyle)
    (own : ∀ a ∈ assignments, a.qualifier.text = qualifier) :
    assignments.zipIdx.map (fun (a, before) => a.draft.numbered style before) =
      (assignments.map (·.column.text)).zipIdx.map fun (column, before) =>
        qualifier ++ ".`" ++ column ++ "` = " ++ style.mark (before + 1) := by
  rw [zipIdx_columns, List.map_map]
  refine List.map_congr_left ?_
  rintro ⟨a, before⟩ member
  have qualified := own a (List.fst_mem_of_mem_zipIdx member)
  simp only [numbered_draft, qualified, Function.comp_apply]

end Assignment

/-- The columns of an insertion are named in order, and so are the placeholders of their values. -/
theorem Insert.numbered_draft (style : PlaceholderStyle) {s : Insert}
    (own : ∀ a ∈ s.assignments, a.qualifier.text = s.table.name.text) :
    s.draft.numbered style 0 =
      insertionText style s.table.name.text (s.assignments.map (·.column.text)) := by
  let heading : Draft := Draft.text "INSERT INTO " ++ Draft.text s.table.name.text ++
    Draft.text "( " ++ Draft.separated ", " Assignment.targetDraft s.assignments ++
    Draft.text " ) VALUES( "
  have free : heading.values = [] := by simp [heading]
  have named : heading.sql = "INSERT INTO " ++ s.table.name.text ++ "( " ++ ", ".intercalate
      ((s.assignments.map (·.column.text)).map fun column => s.table.name.text ++ "." ++ column) ++
      " ) VALUES( " := by
    simp only [heading, Draft.sql_append, Draft.sql_text, Draft.sql_separated,
      Assignment.sql_targets own]
  have parts : s.draft = heading ++
      Draft.separated ", " (fun a => Draft.param a.value) s.assignments ++ Draft.text " )" := rfl
  rw [parts, Draft.numbered_append, Draft.numbered_append_of_values_eq_nil style 0 free,
    Draft.numbered_text, Draft.numbered_separated, named, Assignment.numbered_params]
  · rfl
  · exact fun _ => rfl

/-- A finished insertion names its columns and binds their values. -/
theorem Insert.bake_assemble (style : PlaceholderStyle) {s : Insert} (present : s.assignments ≠ [])
    (own : ∀ a ∈ s.assignments, a.qualifier.text = s.table.name.text) :
    s.assemble.map (·.bake style) = .ok
      { text := insertionText style s.table.name.text (s.assignments.map (·.column.text))
        params := s.assignments.map (·.value) } := by
  rw [assemble, if_neg (by simpa using present), Except.map, Draft.bake_canonical_numbered,
    numbered_draft style own, values_draft]

/-- The columns of an update are named in order, each with the placeholder of its value, and the
values of the filter are numbered behind them. -/
theorem Update.numbered_draft (style : PlaceholderStyle) {s : Update}
    (own : ∀ a ∈ s.assignments, a.qualifier.text = s.table.aliasName.text) :
    s.draft.numbered style 0 =
      updateText style s.table.name.text s.table.aliasName.text
        (s.assignments.map (·.column.text)) s.filter := by
  let heading : Draft := Draft.text "UPDATE " ++ Draft.text s.table.name.text ++ Draft.text " " ++
    Draft.text s.table.aliasName.text ++ Draft.text " SET "
  have free : heading.values = [] := by simp [heading]
  have count : (heading ++ Draft.separated ", " Assignment.draft s.assignments).paramCount =
      (s.assignments.map (·.column.text)).length := by
    simp [Draft.paramCount, free]
  have parts : s.draft = heading ++ Draft.separated ", " Assignment.draft s.assignments ++
      whereDraft none s.filter := rfl
  rw [parts, Draft.numbered_append, count, Nat.zero_add,
    Draft.numbered_append_of_values_eq_nil style 0 free, Draft.numbered_separated,
    Assignment.numbered_drafts style own]
  · simp only [heading, Draft.sql_append, Draft.sql_text]
    rfl
  · exact fun _ => rfl

/-- A finished update assigns its columns and binds their values, and then those of its filter. -/
theorem Update.bake_assemble (style : PlaceholderStyle) {s : Update} (present : s.assignments ≠ [])
    (own : ∀ a ∈ s.assignments, a.qualifier.text = s.table.aliasName.text) :
    s.assemble.map (·.bake style) = .ok
      { text := updateText style s.table.name.text s.table.aliasName.text
          (s.assignments.map (·.column.text)) s.filter
        params := s.assignments.map (·.value) ++ s.filter.values } := by
  rw [assemble, if_neg (by simpa using present), Except.map, Draft.bake_canonical_numbered,
    numbered_draft style own, values_draft]

variable {E : Type}

namespace TableDefinition

/-- The times an entity carries. Stamping it with one of them leaves the other. -/
structure Stamps (definition : TableDefinition E) where
  /-- The time of its creation. -/
  created : E → Option Instant
  /-- The time of its last change. -/
  modified : E → Option Instant
  created_stampCreated (now : Instant) (entity : E) :
    created (definition.stampCreated now entity) = some now
  modified_stampCreated (now : Instant) (entity : E) :
    modified (definition.stampCreated now entity) = modified entity
  created_stampModified (now : Instant) (entity : E) :
    created (definition.stampModified now entity) = created entity
  modified_stampModified (now : Instant) (entity : E) :
    modified (definition.stampModified now entity) = some now

variable (definition : TableDefinition E) (stamp : String) (now : Instant) (entity : E)

/-- The columns of an entity are those of its definition that it has a value for. -/
theorem columnsOf_eq_filter :
    definition.columnsOf entity =
      (definition.writable.filter fun column => (column.read entity).isSome).map (·.name) := by
  rw [columnsOf]
  induction definition.writable with
  | nil => rfl
  | cons column rest ih =>
    cases found : column.read entity with
    | none => simp [found, ih]
    | some value => simp [found, ih]

/-- Where the columns of a definition have distinct names, an entity and a stamp name a column twice
exactly if the entity has a value for a column called like the stamp. -/
theorem nodup_columns_iff (distinct : (definition.writable.map (·.name)).Nodup) :
    (definition.columnsOf entity ++ [stamp]).Nodup ↔
      ∀ column ∈ definition.writable, column.name = stamp → column.read entity = none := by
  have single : ((definition.writable.filter fun column =>
      (column.read entity).isSome).map (·.name)).Nodup :=
    (List.filter_sublist.map _).nodup distinct
  rw [columnsOf_eq_filter, List.nodup_append]
  simp only [single, List.nodup_singleton, true_and, List.mem_singleton, forall_eq, List.mem_map,
    List.mem_filter]
  constructor
  · intro other column member named
    by_contra present
    exact other stamp ⟨column, ⟨member, Option.isSome_iff_ne_none.2 present⟩, named⟩ rfl
  · rintro absent _ ⟨column, ⟨member, present⟩, rfl⟩ named
    rw [absent column member named] at present
    cases present

/-- The stamp is written at least. -/
theorem ne_nil_of_written {made : List Assignment}
    (same : made.map Assignment.pair = definition.written stamp now entity) : made ≠ [] := by
  rintro rfl
  exact List.append_ne_nil_of_right_ne_nil _ (List.cons_ne_nil _ _) same.symm

/-- Under a legal stamp, all columns are legal exactly if those of the entity are. -/
theorem legal_written (legal : columnFault? stamp = none) :
    (∀ column ∈ (definition.written stamp now entity).map Prod.fst, columnFault? column = none) ↔
      ∀ column ∈ definition.columnsOf entity, columnFault? column = none := by
  simp [columns_written, or_imp, forall_and, legal]

end TableDefinition

namespace EntityGateway

variable {g : EntityGateway E} {now : Instant} {entity : E}

/-- Writing columns and values succeeds exactly if the columns are legal, as long as every list of
assignments of them can be finished to the same query. -/
theorem write_eq_ok_iff {qualifier : TableName} {pairs : List (String × Value)}
    {finish : List Assignment → Except QueryError Draft} {style : PlaceholderStyle}
    {finished : Query} {stamped : E}
    (finishes : ∀ made : List Assignment, made.map Assignment.pair = pairs →
      (∀ a ∈ made, a.qualifier.text = qualifier.text) →
        (finish made).map (·.bake style) = .ok finished)
    {query : Query} {after : E} :
    (do
        let made ← pairs.mapM fun (column, value) => Assignment.make column qualifier.text value
        let draft ← finish made
        return (draft.bake style, stamped)) = Except.ok (query, after) ↔
      (∀ column ∈ pairs.map Prod.fst, columnFault? column = none) ∧
        query = finished ∧ after = stamped := by
  -- The columns are legal exactly if they can be assigned, and columns and values say all about
  -- the assignments that matters to the query.
  rw [← Assignment.exists_mapM_make_iff qualifier]
  constructor
  · intro written
    obtain ⟨made, assigned, written⟩ := bind_eq_ok.1 written
    obtain ⟨draft, assembled, written⟩ := bind_eq_ok.1 written
    cases written
    obtain ⟨same, own⟩ := Assignment.mapM_make_eq_ok_iff.1 assigned
    have baked := finishes made same own
    rw [assembled] at baked
    exact ⟨⟨made, assigned⟩, Except.ok.inj baked, rfl⟩
  · rintro ⟨⟨made, assigned⟩, rfl, rfl⟩
    obtain ⟨same, own⟩ := Assignment.mapM_make_eq_ok_iff.1 assigned
    obtain ⟨draft, assembled, rfl⟩ := map_eq_ok.1 (finishes made same own)
    exact bind_eq_ok.2 ⟨made, assigned, bind_eq_ok.2 ⟨draft, assembled, rfl⟩⟩

/-- An insertion succeeds exactly if the columns of the entity are legal. Then it names what is
written, binds the values in the same order, and stamps the entity with the time that is bound. -/
theorem insert_eq_ok_iff (named : g.table.name.text = g.definition.name) {query : Query}
    {after : E} :
    g.insert now entity = .ok (query, after) ↔
      (∀ column ∈ g.definition.columnsOf entity, columnFault? column = none) ∧
      query =
        { text := insertionText g.settings.style g.table.name.text
            ((g.definition.written "created_at" now entity).map Prod.fst)
          params := (g.definition.written "created_at" now entity).map Prod.snd } ∧
      after = g.definition.stampCreated now entity := by
  rw [insert_eq_mapM, ← named,
    ← g.definition.legal_written "created_at" now entity (by decide)]
  refine write_eq_ok_iff fun made same own => ?_
  have present := TableDefinition.ne_nil_of_written _ _ _ _ same
  rw [← same, List.map_map, List.map_map]
  exact Insert.bake_assemble g.settings.style present own

/-- An update succeeds exactly if the columns of the entity are legal. Then it assigns what is
written, binds the values in the same order and those of the filter behind them, and stamps the
entity with the time that is bound. -/
theorem update_eq_ok_iff {query : Query} {after : E} :
    g.update now entity = .ok (query, after) ↔
      (∀ column ∈ g.definition.columnsOf entity, columnFault? column = none) ∧
      query =
        { text := updateText g.settings.style g.table.name.text g.table.aliasName.text
            ((g.definition.written "modified_at" now entity).map Prod.fst) g.filter.block
          params := (g.definition.written "modified_at" now entity).map Prod.snd ++
            g.filter.block.values } ∧
      after = g.definition.stampModified now entity := by
  rw [update_eq_mapM, ← g.definition.legal_written "modified_at" now entity (by decide)]
  refine write_eq_ok_iff fun made same own => ?_
  have present := TableDefinition.ne_nil_of_written _ _ _ _ same
  rw [← same, List.map_map, List.map_map]
  exact Update.bake_assemble g.settings.style present own

/-- Insertions and updates write the columns the entity has a value for, and behind them the column
of the time, each qualified with the name of the table or with the alias, and bind the values in the
order of the columns; an update binds the values of the filter behind them. The entity is stamped
with the time that is bound, and with no other. Only a column without a legal name is refused, and
the filter takes no part in an insertion. That a gateway can be reached matters to insertions alone,
which qualify their columns with the name in the definition. -/
theorem writes_exact (stamps : g.definition.Stamps) (now : Instant) (entity : E) :
    (g.Reachable → ∀ query after, g.insert now entity = .ok (query, after) →
      query =
        { text := insertionText g.settings.style g.table.name.text
            ((g.definition.written "created_at" now entity).map Prod.fst)
          params := (g.definition.written "created_at" now entity).map Prod.snd } ∧
      stamps.created after = some now ∧ stamps.modified after = stamps.modified entity) ∧
    (∀ query after, g.update now entity = .ok (query, after) →
      query =
        { text := updateText g.settings.style g.table.name.text g.table.aliasName.text
            ((g.definition.written "modified_at" now entity).map Prod.fst) g.filter.block
          params := (g.definition.written "modified_at" now entity).map Prod.snd ++
            g.filter.block.values } ∧
      stamps.created after = stamps.created entity ∧ stamps.modified after = some now) ∧
    (g.Reachable → ((∃ result, g.insert now entity = .ok result) ↔
      ∀ column ∈ g.definition.columnsOf entity, columnFault? column = none)) ∧
    ((∃ result, g.update now entity = .ok result) ↔
      ∀ column ∈ g.definition.columnsOf entity, columnFault? column = none) ∧
    ∀ filter, { g with filter }.insert now entity = g.insert now entity := by
  refine ⟨fun reachable query after inserted => ?_, fun query after updated => ?_,
    fun reachable => ?_, ?_, fun filter => rfl⟩
  · obtain ⟨_, same, rfl⟩ := (insert_eq_ok_iff reachable.named).1 inserted
    exact ⟨same, stamps.created_stampCreated now entity, stamps.modified_stampCreated now entity⟩
  · obtain ⟨_, same, rfl⟩ := update_eq_ok_iff.1 updated
    exact ⟨same, stamps.created_stampModified now entity, stamps.modified_stampModified now entity⟩
  · constructor
    · rintro ⟨⟨query, after⟩, inserted⟩
      exact ((insert_eq_ok_iff reachable.named).1 inserted).1
    · exact fun legal => ⟨_, (insert_eq_ok_iff reachable.named).2 ⟨legal, rfl, rfl⟩⟩
  · constructor
    · rintro ⟨⟨query, after⟩, updated⟩
      exact (update_eq_ok_iff.1 updated).1
    · exact fun legal => ⟨_, update_eq_ok_iff.2 ⟨legal, rfl, rfl⟩⟩

end EntityGateway

namespace Sample

/-- A supply, with a name and an image that may be set, and its times. -/
structure Supply where
  /-- The name, if it is set. -/
  name : Option Value
  /-- The image, if it is set. -/
  image : Option Value
  /-- The time of creation. -/
  created : Option Instant := none
  /-- The time of the last change. -/
  modified : Option Instant := none

/-- The table of supplies. -/
def supplies : TableDefinition Supply :=
  { name := "supplies", defaultAlias := "sp", columns := ["name", "image_id"], missing := []
    writable := [⟨"name", (·.name)⟩, ⟨"image_id", (·.image)⟩]
    stampCreated := fun now row => { row with created := some now }
    stampModified := fun now row => { row with modified := some now } }

/-- Each time of a supply is stamped by itself. -/
def stamps : supplies.Stamps :=
  { created := (·.created), modified := (·.modified)
    created_stampCreated := fun _ _ => rfl, modified_stampCreated := fun _ _ => rfl
    created_stampModified := fun _ _ => rfl, modified_stampModified := fun _ _ => rfl }

/-- The condition `sp.name != 'salt'`. -/
def unsalted : Condition :=
  ⟨some ⟨"sp", by decide +kernel⟩, named.column, .notEqual, .single (.text "salt"), by decide⟩

/-- Supplies other than salt, in statements with numbered placeholders. -/
def pantry : EntityGateway Supply :=
  let aliasName : TableName := ⟨"sp", by decide +kernel⟩
  { definition := supplies, table := ⟨⟨"supplies", by decide +kernel⟩, aliasName⟩
    settings := { (default : Settings) with style := .dollar }
    filter := ⟨aliasName, Block.empty.addCondition none unsalted, none⟩
    ordering := .empty aliasName, joins := [] }

/-- The gateway is reached by a step of its filter. -/
theorem reachable_pantry : pantry.Reachable := by
  have made : EntityGateway.make supplies pantry.settings =
      .ok { pantry with filter := .empty pantry.table.aliasName } :=
    map_eq_ok.2 ⟨pantry.table, pantry.table.make_names, rfl⟩
  have conditioned : EntityGateway.change { pantry with filter := .empty pantry.table.aliasName }
      (.filter (.notEqual "name" (.text "salt"))) = .ok pantry :=
    map_eq_ok.2 ⟨_, map_eq_ok.2 ⟨unsalted, unsalted.make_parts, rfl⟩, rfl⟩
  exact (EntityGateway.Reachable.make made).change conditioned

/-- A supply without a name, whose image is set to nothing. -/
def unnamed : Supply := { name := none, image := some .null }

/-- Its only column may stand in a statement. -/
theorem legal_unnamed : ∀ column ∈ pantry.definition.columnsOf unnamed,
    columnFault? column = none := by
  decide +kernel

end Sample

/-- An image that is set to nothing is bound as NULL, a name that is not set is left out, and the
value of the filter is numbered behind the time. -/
theorem EntityGateway.writes_exact_pantry :
    Sample.pantry.Reachable ∧
    (∃ query after, Sample.pantry.insert ⟨60, 0⟩ Sample.unnamed = .ok (query, after) ∧
      query =
        { text := "INSERT INTO supplies( supplies.image_id, supplies.created_at ) " ++
            "VALUES( $1, $2 )"
          params := [.null, .instant ⟨60, 0⟩] } ∧
      after.created = some ⟨60, 0⟩ ∧ after.modified = none) ∧
    ∃ query after, Sample.pantry.update ⟨60, 0⟩ Sample.unnamed = .ok (query, after) ∧
      query =
        { text := "UPDATE supplies sp SET sp.`image_id` = $1, sp.`modified_at` = $2 " ++
            "WHERE (( sp.name != $3 ))"
          params := [.null, .instant ⟨60, 0⟩, .text "salt"] } ∧
      after.created = none ∧ after.modified = some ⟨60, 0⟩ := by
  obtain ⟨inserted, updated, insertable, updatable, _⟩ :=
    writes_exact (g := Sample.pantry) Sample.stamps ⟨60, 0⟩ Sample.unnamed
  refine ⟨Sample.reachable_pantry, ?_, ?_⟩
  · obtain ⟨⟨query, after⟩, done⟩ := (insertable Sample.reachable_pantry).2 Sample.legal_unnamed
    obtain ⟨same, created, modified⟩ := inserted Sample.reachable_pantry query after done
    exact ⟨query, after, done, same.trans (by decide +kernel), created, modified⟩
  · obtain ⟨⟨query, after⟩, done⟩ := updatable.2 Sample.legal_unnamed
    obtain ⟨same, created, modified⟩ := updated query after done
    exact ⟨query, after, done, same.trans (by decide +kernel), created, modified⟩

namespace EntityGateway

variable {g : EntityGateway E}

/-- Where the columns of a definition have distinct names, an insertion names a column twice exactly
if the entity has a value for a column `created_at` of the definition itself, and an update exactly
if it has one for a column `modified_at`. -/
theorem columns_nodup_iff (distinct : (g.definition.writable.map (·.name)).Nodup) (now : Instant)
    (entity : E) :
    (g.Reachable → ∀ query after, g.insert now entity = .ok (query, after) →
      query.text = insertionText g.settings.style g.table.name.text
        (g.definition.columnsOf entity ++ ["created_at"]) ∧
      ((g.definition.columnsOf entity ++ ["created_at"]).Nodup ↔
        ∀ column ∈ g.definition.writable, column.name = "created_at" →
          column.read entity = none)) ∧
    ∀ query after, g.update now entity = .ok (query, after) →
      query.text = updateText g.settings.style g.table.name.text g.table.aliasName.text
        (g.definition.columnsOf entity ++ ["modified_at"]) g.filter.block ∧
      ((g.definition.columnsOf entity ++ ["modified_at"]).Nodup ↔
        ∀ column ∈ g.definition.writable, column.name = "modified_at" →
          column.read entity = none) := by
  refine ⟨fun reachable query after inserted => ⟨?_, ?_⟩, fun query after updated => ⟨?_, ?_⟩⟩
  · obtain ⟨_, rfl, _⟩ := (insert_eq_ok_iff reachable.named).1 inserted
    rw [TableDefinition.columns_written]
  · exact TableDefinition.nodup_columns_iff _ _ _ distinct
  · obtain ⟨_, rfl, _⟩ := update_eq_ok_iff.1 updated
    rw [TableDefinition.columns_written]
  · exact TableDefinition.nodup_columns_iff _ _ _ distinct

end EntityGateway

/-- Supplies are written without a column named twice. -/
theorem EntityGateway.columns_nodup_iff_pantry :
    Sample.pantry.Reachable ∧ (Sample.pantry.definition.writable.map (·.name)).Nodup ∧
    ∃ query after, Sample.pantry.insert ⟨60, 0⟩ Sample.unnamed = .ok (query, after) ∧
      (Sample.pantry.definition.columnsOf Sample.unnamed ++ ["created_at"]).Nodup := by
  have distinct : (Sample.pantry.definition.writable.map (·.name)).Nodup := by decide
  obtain ⟨query, after, done⟩ : ∃ query after,
      Sample.pantry.insert ⟨60, 0⟩ Sample.unnamed = .ok (query, after) :=
    ⟨_, _, (insert_eq_ok_iff Sample.reachable_pantry.named).2
      ⟨Sample.legal_unnamed, rfl, rfl⟩⟩
  obtain ⟨inserted, _⟩ := columns_nodup_iff distinct ⟨60, 0⟩ Sample.unnamed
  have single := (inserted Sample.reachable_pantry query after done).2.2 (by decide)
  exact ⟨Sample.reachable_pantry, distinct, query, after, done, single⟩

namespace Sample

/-- Rows that are known with the time of their creation. -/
def imports : EntityGateway (Option Instant) :=
  let aliasName : TableName := ⟨"im", by decide +kernel⟩
  { definition :=
      { name := "imports", defaultAlias := "im", columns := [], missing := []
        writable := [⟨"created_at", Option.map .instant⟩]
        stampCreated := fun now _ => some now, stampModified := fun _ row => row }
    table := ⟨⟨"imports", by decide +kernel⟩, aliasName⟩, settings := default
    filter := .empty aliasName, ordering := .empty aliasName, joins := [] }

end Sample

/-- A row that brings the time of its creation along has the column named twice. -/
theorem EntityGateway.created_at_named_twice :
    EntityGateway.make Sample.imports.definition default = .ok Sample.imports ∧
    (Sample.imports.definition.writable.map (·.name)).Nodup ∧
    ∃ after, Sample.imports.insert ⟨60, 0⟩ (some ⟨1, 0⟩) = .ok
      ({ text := "INSERT INTO imports( imports.created_at, imports.created_at ) VALUES( ?, ? )"
         params := [.instant ⟨1, 0⟩, .instant ⟨60, 0⟩] }, after) := by
  have made : EntityGateway.make Sample.imports.definition default = .ok Sample.imports :=
    map_eq_ok.2 ⟨Sample.imports.table, Sample.imports.table.make_names, rfl⟩
  refine ⟨made, by decide, _, (insert_eq_ok_iff (named_makeAs made).1).2 ⟨?_, ?_, rfl⟩⟩
  · decide +kernel
  · decide +kernel

end BoundSql
