import BoundSql.Proofs.Answers
import BoundSql.Proofs.Decoding
import BoundSql.Proofs.ResolvedColumns

/-!
# The list of a selection

The list at the head of a selection is read back from its text word by word: what is selected, the
word AS, and the name it has in the result, with a comma behind the name where another entry
follows. No name has a blank or a comma in it, so that this finds the columns of the selection, in
order (`Select.entries_assemble`). The names that a gateway tells for its columns are those in the
list: the columns of one table are distinct and have one alias behind them, so that a name belongs
to one column at most (`EntityGateway.entries_get`).
-/

namespace BoundSql

open Outcome
open BoundSql.Symbol (ofText spell)

/-- An entry of the list of a selection: what is selected, and its name in the result. -/
structure ListEntry where
  /-- What is selected. -/
  source : String
  /-- The name behind the word AS. -/
  name : String
deriving DecidableEq, Repr

/-- The entries at the beginning of a row of words, up to the first without a comma behind it. -/
def ListEntry.read : List (List Char) → List ListEntry
  | source :: ['A', 'S'] :: name :: rest =>
    if name.getLast? = some ',' then
      ⟨String.ofList source, String.ofList name.dropLast⟩ :: read rest
    else [⟨String.ofList source, String.ofList name⟩]
  | _ => []

/-- The entries of the list that follows the first word of a statement. -/
def Query.entries (query : Query) : List ListEntry :=
  ListEntry.read (query.text.toList.splitOn ' ').tail

/-- The entry of a column. -/
def ProjectedColumn.entry (c : ProjectedColumn) : ListEntry :=
  ⟨c.qualifier.text ++ "." ++ c.column.text, c.resultName⟩

namespace ProjectedColumn

variable {mark : Char}

/-- A mark that is not written in names does not stand in the name of a column. -/
theorem not_mem_resultName (c : ProjectedColumn) (outside : continuesName mark = false) :
    mark ∉ c.resultName.toList := by
  rw [resultName, String.toList_append, List.mem_append, not_or]
  exact ⟨c.column.isWord.not_mem outside, c.qualifier.isWord.not_mem outside⟩

/-- The words of a column, behind which `behind` and a blank follow. -/
theorem splitOn_column (c : ProjectedColumn) {behind : List Char} (joined : ' ' ∉ behind)
    (rest : List Char) :
    ((c.qualifier.text ++ "." ++ c.column.text ++ " AS " ++ c.resultName).toList ++
        (behind ++ ' ' :: rest)).splitOn ' ' =
      c.entry.source.toList :: ['A', 'S'] :: (c.resultName.toList ++ behind) ::
        rest.splitOn ' ' := by
  have source : ' ' ∉ c.entry.source.toList := by
    simp only [entry, String.toList_append, List.mem_append, not_or]
    exact ⟨⟨c.qualifier.isWord.not_mem (by decide), by decide⟩, c.column.isWord.not_mem (by decide)⟩
  have name : ' ' ∉ c.resultName.toList ++ behind := by
    rw [List.mem_append, not_or]
    exact ⟨c.not_mem_resultName (by decide), joined⟩
  have shape : (c.qualifier.text ++ "." ++ c.column.text ++ " AS " ++ c.resultName).toList ++
        (behind ++ ' ' :: rest) =
      c.entry.source.toList ++ ' ' :: (['A', 'S'] ++ ' ' ::
        ((c.resultName.toList ++ behind) ++ ' ' :: rest)) := by
    simp [entry]
  rw [shape, List.splitOn_append_cons_self_of_not_mem source,
    List.splitOn_append_cons_self_of_not_mem (by decide),
    List.splitOn_append_cons_self_of_not_mem name]

end ProjectedColumn

/-- The list of some columns is read back column by column, whatever follows behind a blank. -/
theorem Projection.read_words {columns : Projection} (present : columns ≠ [])
    (style : PlaceholderStyle) (bound : Nat) {tail : List Symbol} {rest : List Char}
    (blank : spell style bound tail = ' ' :: rest) :
    ListEntry.read ((spell style bound ((draft columns).symbols ++ tail)).splitOn ' ') =
      columns.map ProjectedColumn.entry := by
  induction columns with
  | nil => exact absurd rfl present
  | cons c others ih =>
    have name : String.ofList c.resultName.toList = c.resultName := String.ofList_toList
    have source : String.ofList c.entry.source.toList = c.entry.source := String.ofList_toList
    have own : c.draft.symbols = ofText (c.qualifier.text ++ "." ++ c.column.text ++ " AS " ++
        c.resultName) := by
      simp [ProjectedColumn.draft]
    cases others with
    | nil =>
      have ends : ¬ (c.resultName.toList ++ []).getLast? = some ',' := by
        rw [List.append_nil]
        exact fun last =>
          c.not_mem_resultName (by decide) (List.mem_of_getLast? last)
      have words := c.splitOn_column List.not_mem_nil rest
      rw [List.nil_append] at words
      rw [draft, Draft.separated, own, Symbol.spell_ofText_append, blank, words, ListEntry.read,
        if_neg ends, List.append_nil, name, source]
      rfl
    | cons next more =>
      have ends : (c.resultName.toList ++ [',']).getLast? = some ',' := by simp
      have shape : (draft (c :: next :: more)).symbols ++ tail =
          c.draft.symbols ++ (ofText ", " ++ ((draft (next :: more)).symbols ++ tail)) := by
        simp [draft, Draft.separated]
      have comma : spell style bound (ofText ", " ++ ((draft (next :: more)).symbols ++ tail)) =
          [','] ++ ' ' :: spell style bound ((draft (next :: more)).symbols ++ tail) :=
        Symbol.spell_ofText_append style bound ", " _
      have joined : ' ' ∉ [','] := by decide
      rw [shape, own, Symbol.spell_ofText_append, comma, c.splitOn_column joined, ListEntry.read,
        if_pos ends, ih (List.cons_ne_nil next more), List.dropLast_concat, name, source]
      rfl

/-- The list of a finished selection has its columns, in order. -/
theorem Select.entries_assemble {s : Select} {finished : Draft}
    (assembled : s.assemble = .ok finished) (style : PlaceholderStyle) :
    (finished.bake style).entries = s.columns.map ProjectedColumn.entry := by
  have present : s.columns ≠ [] := by
    intro vacant
    rw [assemble, vacant] at assembled
    cases assembled
  rw [assemble_eq_ok present] at assembled
  cases assembled
  -- Only what follows the list binds values, so that they are counted from none.
  obtain ⟨tail, shape⟩ : ∃ tail, s.draft.symbols =
      ofText "SELECT " ++ (s.columns.draft.symbols ++ (ofText " FROM " ++ tail)) :=
    ⟨_, by simp only [draft, Draft.symbols_append, Draft.symbols_text, List.append_assoc]; rfl⟩
  have blank : spell style 0 (ofText " FROM " ++ tail) =
      ' ' :: ("FROM ".toList ++ spell style 0 tail) :=
    Symbol.spell_ofText_append style 0 " FROM " tail
  have lead : spell style 0 s.draft.symbols = ['S', 'E', 'L', 'E', 'C', 'T'] ++
      ' ' :: spell style 0 (s.columns.draft.symbols ++ (ofText " FROM " ++ tail)) := by
    rw [shape]
    exact Symbol.spell_ofText_append style 0 "SELECT " _
  rw [Query.entries, Draft.toList_text_bake, Draft.symbols_canonical, lead,
    List.splitOn_append_cons_self_of_not_mem (by decide), List.tail_cons,
    Projection.read_words present style 0 blank]

namespace EntityGateway

variable {E : Type} {g : EntityGateway E} {excluded : List String} {query : Query}

/-- The list of a selection has the columns that are asked for, in order, each with the alias and
under the name that the gateway tells for it. -/
theorem entries_get (selected : (g.get excluded).result = .ok query) :
    query.entries =
      (Projection.names defaultColumns g.definition.columns (g.definition.missing ++ excluded)).map
        fun column => ⟨g.table.aliasName.text ++ "." ++ column, g.resultName column⟩ := by
  obtain ⟨s, parts, finished, style, assembled, rfl⟩ := Reply.select_of_result selected
  obtain ⟨columns, resolved, rest⟩ := bind_eq_ok.1 parts
  cases rest
  obtain ⟨qualified, names⟩ := TableColumns.texts_of_resolve (t := g.tableColumns excluded) resolved
  have names : columns.map (·.column.text) = Projection.names defaultColumns g.definition.columns
      (g.definition.missing ++ excluded) := names
  rw [Select.entries_assemble assembled, ← names, List.map_map]
  refine List.map_congr_left fun c member => ?_
  have qualifier : c.qualifier.text = g.table.aliasName.text := qualified c member
  simp [ProjectedColumn.entry, ProjectedColumn.resultName, resultName, qualifier]

/-- The name that a gateway tells for a column is the name of exactly one entry in the list of a
selection if the column is selected, namely that of the column under the alias, and of none
otherwise. -/
theorem entries_named (selected : (g.get excluded).result = .ok query) (column : String) :
    (Projection.Asked defaultColumns g.definition.columns (g.definition.missing ++ excluded)
        column →
      query.entries.filter (·.name = g.resultName column) =
        [⟨g.table.aliasName.text ++ "." ++ column, g.resultName column⟩]) ∧
    (¬ Projection.Asked defaultColumns g.definition.columns (g.definition.missing ++ excluded)
        column →
      ∀ entry ∈ query.entries, entry.name ≠ g.resultName column) := by
  have named : ∀ other : String, g.resultName other = g.resultName column ↔ other = column :=
    fun other => String.append_left_inj g.table.aliasName.text
  rw [entries_get selected, ← Projection.mem_names_iff]
  constructor
  · intro member
    have once := List.count_eq_one_of_mem Projection.nodup_names member
    rw [List.filter_map]
    have own : (Projection.names defaultColumns g.definition.columns
        (g.definition.missing ++ excluded)).filter (· = column) = [column] := by
      rw [List.filter_eq, once]
      rfl
    simp only [Function.comp_def, named, own, List.map_singleton]
  · rintro absent entry member same
    obtain ⟨other, inside, rfl⟩ := List.mem_map.1 member
    rw [(named other).1 same] at inside
    exact absent inside

end EntityGateway

namespace Sample

/-- A table by an alias that makes the name of its column a keyword. -/
def orders : EntityGateway Unit :=
  listing ⟨"orders", by decide +kernel⟩ ⟨"OM", by decide +kernel⟩ ["FR"] ["created_at"]

/-- The selection of its columns but one. -/
def ordersQuery : Query := ⟨"SELECT OM.id AS idOM, OM.FR AS FROM FROM orders AS OM", []⟩

end Sample

/-- A name that looks like the word behind the list is found, and that of an excluded column is
not. -/
theorem EntityGateway.entries_named_orders :
    (Sample.orders.get ["modified_at"]).result = .ok Sample.ordersQuery ∧
    Sample.ordersQuery.entries.filter (·.name = "FROM") = [⟨"OM.FR", "FROM"⟩] ∧
    ∀ entry ∈ Sample.ordersQuery.entries, entry.name ≠ "modified_atOM" := by
  have selected : (Sample.orders.get ["modified_at"]).result = .ok Sample.ordersQuery := by
    decide +kernel
  have own := (entries_named selected "FR").1 ⟨.inr (by decide), by decide⟩
  have excluded := (entries_named selected "modified_at").2 fun asked => asked.2 (by decide)
  exact ⟨selected, own, excluded⟩

end BoundSql
