import BoundSql.Gateway.Composite
import BoundSql.Proofs.Outcome
import BoundSql.Proofs.Words
import Mathlib.Data.List.Nodup

/-!
# Names of result columns

A column of a selection is named by its own name and the alias behind it, with nothing between
them. So the name does not say where the column ends: two columns of different tables have one
name exactly if they clash, that is if one alias ends with the other and the rest of it stands at
the end of the other column (`ProjectedColumn.resultName_eq_iff`). Within one table, and between
tables no alias of which ends with another, names are distinct
(`Projection.resultNames_nodup_iff`); otherwise they need not be
(`Projection.resultName_ambiguous`).
-/

namespace BoundSql

open Outcome

/-- The columns that are asked for from one table of a selection. -/
structure TableColumns where
  /-- The alias of the table. -/
  aliasName : String
  /-- The columns every table has. -/
  defaults : List String
  /-- The columns of the table itself. -/
  columns : List String
  /-- The columns that are left out. -/
  excluded : List String
deriving DecidableEq, Repr

/-- The columns of one table, or why there are none. -/
def TableColumns.resolve (t : TableColumns) : Except QueryError Projection :=
  Projection.resolve t.aliasName t.defaults t.columns t.excluded

/-- The columns of several tables, one table behind the other. -/
def Projection.ofTables (tables : List TableColumns) : Except QueryError Projection :=
  (tables.mapM TableColumns.resolve).map List.flatten

/-- Two columns clash if the alias of the first ends with that of the second, and the rest of it
ends the column of the second, which begins with the column of the first. -/
def ProjectedColumn.Clashes (x y : ProjectedColumn) : Prop :=
  ∃ rest, rest ≠ "" ∧ x.qualifier.text = rest ++ y.qualifier.text ∧
    y.column.text = x.column.text ++ rest

namespace ProjectedColumn

/-- A column that is made keeps its texts. -/
theorem texts_of_make {qualifier column : String} {x : ProjectedColumn}
    (made : make qualifier column = .ok x) :
    x.qualifier.text = qualifier ∧ x.column.text = column := by
  obtain ⟨_, table, made⟩ := bind_eq_ok.1 made
  obtain ⟨_, name, made⟩ := bind_eq_ok.1 made
  cases made
  exact ⟨TableName.text_of_read table, ColumnName.text_of_read name⟩

/-- Columns with the same texts are equal. -/
theorem eq_of_texts {x y : ProjectedColumn} (qualifiers : x.qualifier.text = y.qualifier.text)
    (columns : x.column.text = y.column.text) : x = y := by
  obtain ⟨⟨_, _⟩, ⟨_, _⟩⟩ := x
  obtain ⟨⟨_, _⟩, ⟨_, _⟩⟩ := y
  cases qualifiers
  cases columns
  rfl

/-- A column that clashes with another one differs from it. -/
theorem Clashes.ne {x y : ProjectedColumn} (clash : x.Clashes y) : x ≠ y := by
  rintro rfl
  obtain ⟨rest, present, _, column⟩ := clash
  have nothing : x.column.text ++ "" = x.column.text ++ rest := by
    rw [String.append_empty]
    exact column
  exact present (String.append_right_inj _ |>.1 nothing).symm

/-- Columns that clash have one name. -/
theorem Clashes.resultName_eq {x y : ProjectedColumn} (clash : x.Clashes y) :
    x.resultName = y.resultName := by
  obtain ⟨rest, _, qualifier, column⟩ := clash
  rw [resultName, resultName, qualifier, column, String.append_assoc]

/-- Columns have one name exactly if they are the same or clash. -/
theorem resultName_eq_iff {x y : ProjectedColumn} :
    x.resultName = y.resultName ↔ x = y ∨ x.Clashes y ∨ y.Clashes x := by
  constructor
  · intro same
    -- The shorter column begins the longer one; what the longer one has behind it begins the
    -- alias of the shorter one.
    have split : ∀ {x y : ProjectedColumn} {rest : List Char},
        y.column.text.toList = x.column.text.toList ++ rest →
        x.qualifier.text.toList = rest ++ y.qualifier.text.toList → x = y ∨ x.Clashes y := by
      intro x y rest columns qualifiers
      have column : y.column.text = x.column.text ++ String.ofList rest :=
        String.toList_injective (by simp [columns])
      have qualifier : x.qualifier.text = String.ofList rest ++ y.qualifier.text :=
        String.toList_injective (by simp [qualifiers])
      by_cases vacant : String.ofList rest = ""
      · rw [vacant, String.append_empty] at column
        rw [vacant, String.empty_append] at qualifier
        exact .inl (eq_of_texts qualifier column.symm)
      · exact .inr ⟨_, vacant, qualifier, column⟩
    have letters := congrArg String.toList same
    rw [resultName, resultName, String.toList_append, String.toList_append] at letters
    rcases List.append_eq_append_iff.1 letters with
      ⟨rest, columns, qualifiers⟩ | ⟨rest, columns, qualifiers⟩
    · exact (split columns qualifiers).imp_right .inl
    · rcases split columns qualifiers with equal | clash
      · exact .inl equal.symm
      · exact .inr (.inr clash)
  · rintro (rfl | clash | clash)
    · rfl
    · exact clash.resultName_eq
    · exact clash.resultName_eq.symm

end ProjectedColumn

/-- The columns of one table have its alias and the names that are asked for, in order. -/
theorem TableColumns.texts_of_resolve {t : TableColumns} {projection : Projection}
    (made : t.resolve = .ok projection) :
    (∀ x ∈ projection, x.qualifier.text = t.aliasName) ∧
      projection.map (·.column.text) = Projection.names t.defaults t.columns t.excluded := by
  have each := mapM_eq_ok.1 made
  generalize Projection.names t.defaults t.columns t.excluded = names at each
  clear made
  induction each with
  | nil => simp
  | cons first others ih =>
    obtain ⟨qualifier, column⟩ := ProjectedColumn.texts_of_make first
    exact ⟨List.forall_mem_cons.2 ⟨qualifier, ih.1⟩, by simp [column, ih.2]⟩

/-- No name is selected twice. -/
theorem Projection.nodup_names {defaults columns excluded : List String} :
    (names defaults columns excluded).Nodup :=
  (nodup_firstOccurrences [] _).filter _

/-- The columns of one table are distinct. -/
theorem TableColumns.nodup_of_resolve {t : TableColumns} {projection : Projection}
    (made : t.resolve = .ok projection) : projection.Nodup := by
  have distinct : (Projection.names t.defaults t.columns t.excluded).Nodup := Projection.nodup_names
  rw [← (texts_of_resolve made).2] at distinct
  exact List.Nodup.of_map _ distinct

namespace Projection

/-- The columns of a table stand before those of the tables behind it. -/
theorem ofTables_cons_eq_ok {t : TableColumns} {tables : List TableColumns} {merged : Projection} :
    ofTables (t :: tables) = .ok merged ↔
      ∃ own others,
        t.resolve = .ok own ∧ ofTables tables = .ok others ∧ merged = own ++ others := by
  simp only [ofTables, List.mapM_cons, map_eq_ok, bind_eq_ok]
  constructor
  · rintro ⟨_, ⟨own, made, rest, later, done⟩, rfl⟩
    cases done
    exact ⟨own, rest.flatten, made, ⟨rest, later, rfl⟩, rfl⟩
  · rintro ⟨own, _, made, ⟨rest, later, rfl⟩, rfl⟩
    exact ⟨own :: rest, ⟨own, made, rest, later, rfl⟩, rfl⟩

/-- Every column has the alias of one of the tables. -/
theorem exists_table_of_mem {tables : List TableColumns} {merged : Projection}
    (made : ofTables tables = .ok merged) {x : ProjectedColumn} (member : x ∈ merged) :
    ∃ t ∈ tables, x.qualifier.text = t.aliasName := by
  induction tables generalizing merged with
  | nil =>
    cases made
    cases member
  | cons t rest ih =>
    obtain ⟨own, others, first, later, rfl⟩ := ofTables_cons_eq_ok.1 made
    rcases List.mem_append.1 member with inside | behind
    · exact ⟨t, List.mem_cons_self, (TableColumns.texts_of_resolve first).1 x inside⟩
    · obtain ⟨t', table, same⟩ := ih later behind
      exact ⟨t', List.mem_cons_of_mem t table, same⟩

/-- The columns of tables with distinct aliases are distinct. -/
theorem nodup_of_ofTables {tables : List TableColumns} {merged : Projection}
    (distinct : (tables.map (·.aliasName)).Nodup) (made : ofTables tables = .ok merged) :
    merged.Nodup := by
  induction tables generalizing merged with
  | nil =>
    cases made
    exact List.nodup_nil
  | cons t rest ih =>
    obtain ⟨own, others, first, later, rfl⟩ := ofTables_cons_eq_ok.1 made
    obtain ⟨new, distinct⟩ := List.nodup_cons.1 distinct
    refine List.nodup_append.2 ⟨TableColumns.nodup_of_resolve first, ih distinct later, ?_⟩
    rintro x inside y behind rfl
    obtain ⟨t', table, same⟩ := exists_table_of_mem later behind
    rw [(TableColumns.texts_of_resolve first).1 x inside] at same
    exact new (List.mem_map.2 ⟨t', table, same.symm⟩)

/-- The names of distinct columns are distinct exactly if no two of the columns clash. -/
theorem nodup_resultNames {merged : Projection} (distinct : merged.Nodup) :
    (merged.map (·.resultName)).Nodup ↔ ∀ x ∈ merged, ∀ y ∈ merged, ¬ x.Clashes y := by
  constructor
  · intro names x inside y inside' clash
    exact clash.ne (List.inj_on_of_nodup_map names inside inside' clash.resultName_eq)
  · intro apart
    refine distinct.map_on fun x inside y inside' same => ?_
    rcases ProjectedColumn.resultName_eq_iff.1 same with equal | clash | clash
    · exact equal
    · exact absurd clash (apart x inside y inside')
    · exact absurd clash (apart y inside' x inside)

/-- Every column can be found under its name exactly if no two columns clash. -/
theorem find?_resultName {merged : Projection} :
    (∀ x ∈ merged, merged.find? (·.resultName == x.resultName) = some x) ↔
      ∀ x ∈ merged, ∀ y ∈ merged, ¬ x.Clashes y := by
  constructor
  · intro found x inside y inside' clash
    have same := found x inside
    rw [clash.resultName_eq, found y inside'] at same
    exact clash.ne (Option.some.inj same).symm
  · intro apart x inside
    cases found : merged.find? (·.resultName == x.resultName) with
    | none => exact absurd (List.find?_eq_none.1 found x inside) (by simp)
    | some y =>
      have same : y.resultName = x.resultName := by simpa using List.find?_some found
      have inside' := List.mem_of_find?_eq_some found
      rcases ProjectedColumn.resultName_eq_iff.1 same with equal | clash | clash
      · rw [equal]
      · exact absurd clash (apart y inside' x inside)
      · exact absurd clash (apart x inside y inside')

/-- The names of the result columns of tables with distinct aliases are distinct exactly if no
two of the columns clash, and exactly then every column can be read back under its name. No two
clash where the alias of no table ends with that of another one. -/
theorem resultNames_nodup_iff {tables : List TableColumns} {merged : Projection}
    (distinct : (tables.map (·.aliasName)).Nodup) (made : ofTables tables = .ok merged) :
    ((merged.map (·.resultName)).Nodup ↔ ∀ x ∈ merged, ∀ y ∈ merged, ¬ x.Clashes y) ∧
    ((∀ x ∈ merged, merged.find? (·.resultName == x.resultName) = some x) ↔
      ∀ x ∈ merged, ∀ y ∈ merged, ¬ x.Clashes y) ∧
    ((∀ t ∈ tables, ∀ t' ∈ tables, t'.aliasName.toList <:+ t.aliasName.toList →
        t.aliasName = t'.aliasName) →
      (merged.map (·.resultName)).Nodup) := by
  have names := nodup_resultNames (nodup_of_ofTables distinct made)
  refine ⟨names, find?_resultName, fun free => names.2 fun x inside y inside' clash => ?_⟩
  obtain ⟨rest, present, ends, _⟩ := clash
  obtain ⟨t, table, own⟩ := exists_table_of_mem made inside
  obtain ⟨t', table', other⟩ := exists_table_of_mem made inside'
  rw [own, other] at ends
  have same : t.aliasName = t'.aliasName :=
    free t table t' table' ⟨rest.toList, by rw [ends, String.toList_append]⟩
  have nothing : "" ++ t'.aliasName = rest ++ t'.aliasName := by
    rw [String.empty_append, ← ends, same]
  exact present (String.append_left_inj _ |>.1 nothing).symm

end Projection

/-- The columns a gateway is asked for, without the excluded ones. -/
def EntityGateway.tableColumns {E : Type} (g : EntityGateway E) (excluded : List String) :
    TableColumns :=
  { aliasName := g.table.aliasName.text, defaults := defaultColumns, columns := g.definition.columns
    excluded := g.definition.missing ++ excluded }

/-- The columns of a composite are those of its base and its members. -/
theorem CompositeGateway.projection_eq_ofTables {E : Type} (c : CompositeGateway E)
    (excluded : List String) :
    c.projection excluded =
      Projection.ofTables ((c.base :: c.members).map (·.tableColumns excluded)) := by
  rw [Projection.ofTables, List.mapM_map]
  rfl

namespace Sample

/-- A table of the default columns and others, by an alias. -/
def listing (name aliasName : TableName) (columns missing : List String) : EntityGateway Unit :=
  { definition :=
      { name := name.text, defaultAlias := aliasName.text, columns, missing, writable := []
        stampCreated := fun _ row => row, stampModified := fun _ row => row }
    table := ⟨name, aliasName⟩, settings := default, filter := .empty aliasName
    ordering := .empty aliasName, joins := [] }

/-- Recipes with the identities of their ingredients, and the ingredients. -/
def kitchen : CompositeGateway Unit :=
  { base := listing ⟨"recipes", by decide +kernel⟩ ⟨"rec", by decide +kernel⟩ ["name"] []
    members :=
      [listing ⟨"recipes_ingredients", by decide +kernel⟩ ⟨"recing", by decide +kernel⟩
        ["recipe_id", "ingredient_id"] ["id"],
       listing ⟨"ingredients", by decide +kernel⟩ ⟨"ig", by decide +kernel⟩ ["name"] []]
    combination := {} }

/-- Two tables, the alias of one of which ends with that of the other. -/
def overlapping : List TableColumns :=
  [⟨"u", defaultColumns, ["idm"], []⟩, ⟨"mu", defaultColumns, [], []⟩]

end Sample

/-- The columns of recipes and ingredients have distinct names. -/
theorem Projection.resultNames_nodup_kitchen :
    (((Sample.kitchen.base :: Sample.kitchen.members).map (·.tableColumns [])).map
      (·.aliasName)).Nodup ∧
    ∃ merged, Sample.kitchen.projection [] = .ok merged ∧ (merged.map (·.resultName)).Nodup := by
  have distinct : (((Sample.kitchen.base :: Sample.kitchen.members).map (·.tableColumns [])).map
      (·.aliasName)).Nodup := by
    decide +kernel
  obtain ⟨merged, made⟩ : ∃ merged, Sample.kitchen.projection [] = .ok merged := by
    cases found : Sample.kitchen.projection [] with
    | ok merged => exact ⟨merged, rfl⟩
    | error cause =>
      have accepted : (Sample.kitchen.projection []).isOk = true := by decide +kernel
      rw [found] at accepted
      cases accepted
  refine ⟨distinct, merged, made, ?_⟩
  rw [CompositeGateway.projection_eq_ofTables] at made
  exact (resultNames_nodup_iff distinct made).2.2 (by decide +kernel)

/-- The column `idm` of a table `u` and the column `id` of a table `mu` have one name. -/
theorem Projection.resultName_ambiguous :
    (Sample.overlapping.map (·.aliasName)).Nodup ∧
    ∃ merged, ofTables Sample.overlapping = .ok merged ∧ ¬ (merged.map (·.resultName)).Nodup := by
  have names : (ofTables Sample.overlapping).map (fun merged => merged.map (·.resultName)) =
      .ok ["idu", "created_atu", "modified_atu", "idmu", "idmu", "created_atmu",
        "modified_atmu"] := by
    decide +kernel
  obtain ⟨merged, made, names⟩ := map_eq_ok.1 names
  refine ⟨by decide +kernel, merged, made, ?_⟩
  rw [names]
  decide +kernel

end BoundSql
