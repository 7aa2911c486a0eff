import BoundSql.Proofs.ResultNames

/-!
# Resolved columns

Which columns are selected from one table. A name is asked for if it stands among the default
columns or those of the table and is not excluded. Only such names are looked at, and the
qualifier is looked at only if there is one: an illegal name that is excluded is no error, and
neither is an illegal qualifier of no columns. What is selected is every name that is asked for,
once, in the order of first occurrence (`Projection.resolve_exact`). First occurrences are kept in
their order by every filter (`firstOccurrences_filter`), so that it does not matter whether names
are excluded before or after the repetitions are removed.
-/

namespace BoundSql

open Outcome

/-- What was seen before matters only for the names that occur. -/
theorem firstOccurrences_congr {seen seen' names : List String}
    (same : ∀ name ∈ names, name ∈ seen ↔ name ∈ seen') :
    firstOccurrences seen names = firstOccurrences seen' names := by
  induction names generalizing seen seen' with
  | nil => rfl
  | cons head rest ih =>
    obtain ⟨first, later⟩ := List.forall_mem_cons.1 same
    rw [firstOccurrences, firstOccurrences]
    by_cases known : head ∈ seen
    · rw [if_pos known, if_pos (first.1 known), ih later]
    · rw [if_neg known, if_neg (mt first.2 known), ih fun name member => ?_]
      rw [List.mem_cons, List.mem_cons, later name member]

/-- The first occurrences of the names that pass a test are the first occurrences that pass. -/
theorem firstOccurrences_filter (p : String → Bool) (seen names : List String) :
    firstOccurrences seen (names.filter p) = (firstOccurrences seen names).filter p := by
  induction names generalizing seen with
  | nil => rfl
  | cons head rest ih =>
    rw [firstOccurrences]
    by_cases passes : p head = true
    · rw [List.filter_cons_of_pos passes, firstOccurrences]
      by_cases known : head ∈ seen
      · rw [if_pos known, if_pos known, ih]
      · rw [if_neg known, if_neg known, List.filter_cons_of_pos passes, ih]
    · rw [List.filter_cons_of_neg passes, ih]
      by_cases known : head ∈ seen
      · rw [if_pos known]
      · -- A name that fails the test may count as seen: it is none of those that pass.
        rw [if_neg known, List.filter_cons_of_neg passes, ← ih, ← ih]
        refine firstOccurrences_congr fun name member => ?_
        have other : name ≠ head := by
          rintro rfl
          exact passes (List.mem_filter.1 member).2
        rw [List.mem_cons, or_iff_right other]

/-- First occurrences stand in the order in which names occur for the first time. -/
theorem pairwise_idxOf_firstOccurrences (seen names : List String) :
    (firstOccurrences seen names).Pairwise fun x y => names.idxOf x < names.idxOf y := by
  induction names generalizing seen with
  | nil => exact .nil
  | cons head rest ih =>
    -- Behind a name that was seen, only other names are kept.
    have other {seen : List String} (known : head ∈ seen) {name : String}
        (kept : name ∈ firstOccurrences seen rest) : head ≠ name := by
      rintro rfl
      exact (mem_firstOccurrences.1 kept).2 known
    have behind {seen : List String} (known : head ∈ seen) :
        (firstOccurrences seen rest).Pairwise fun x y =>
          (head :: rest).idxOf x < (head :: rest).idxOf y := by
      refine (ih seen).imp_of_mem fun keptX keptY before => ?_
      rw [List.idxOf_cons_ne rest (other known keptX), List.idxOf_cons_ne rest (other known keptY)]
      exact Nat.succ_lt_succ before
    rw [firstOccurrences]
    by_cases known : head ∈ seen
    · rw [if_pos known]
      exact behind known
    · rw [if_neg known]
      refine List.pairwise_cons.2 ⟨fun name kept => ?_, behind List.mem_cons_self⟩
      rw [List.idxOf_cons_self, List.idxOf_cons_ne rest (other List.mem_cons_self kept)]
      exact Nat.succ_pos _

/-- A column is made exactly if its qualifier may name a table and its name a column. -/
theorem ProjectedColumn.exists_make_iff {qualifier column : String} :
    (∃ x, make qualifier column = .ok x) ↔
      tableFault? qualifier = none ∧ columnFault? column = none := by
  constructor
  · rintro ⟨x, made⟩
    obtain ⟨rfl, rfl⟩ := texts_of_make made
    exact ⟨x.qualifier.legal, x.column.legal⟩
  · rintro ⟨table, name⟩
    refine ⟨⟨⟨qualifier, table⟩, ⟨column, name⟩⟩, ?_⟩
    exact bind_eq_ok.2 ⟨_, TableName.read_text ⟨qualifier, table⟩,
      bind_eq_ok.2 ⟨_, ColumnName.read_text ⟨column, name⟩, rfl⟩⟩

namespace Projection

/-- A name is asked for: it is a default column or one of the table, and it is not excluded. -/
def Asked (defaults columns excluded : List String) (name : String) : Prop :=
  (name ∈ defaults ∨ name ∈ columns) ∧ name ∉ excluded

variable {qualifier : String} {defaults columns excluded : List String}

/-- The names of the selected columns are those that are asked for. -/
theorem mem_names_iff {name : String} :
    name ∈ names defaults columns excluded ↔ Asked defaults columns excluded name := by
  simp [names, Asked, mem_firstOccurrences]

/-- Columns are selected in the order in which they are listed for the first time. -/
theorem pairwise_idxOf_names :
    (names defaults columns excluded).Pairwise fun x y =>
      (defaults ++ columns).idxOf x < (defaults ++ columns).idxOf y :=
  (pairwise_idxOf_firstOccurrences [] (defaults ++ columns)).filter _

/-- Names can be excluded from the lists before these are united. -/
theorem names_exclude_first :
    names (defaults.filter (· ∉ excluded)) (columns.filter (· ∉ excluded)) [] =
      names defaults columns excluded := by
  rw [names, names, ← List.filter_append, firstOccurrences_filter]
  simp

/-- Order and repetitions of the excluded names do not matter. -/
theorem names_congr {excluded' : List String} (same : ∀ name, name ∈ excluded' ↔ name ∈ excluded) :
    names defaults columns excluded' = names defaults columns excluded := by
  rw [names, names]
  refine List.filter_congr fun name _ => ?_
  simp [same name]

/-- The columns are resolved exactly if every name that is asked for may name a column and, where
there is one, the qualifier may name a table. -/
theorem exists_resolve_iff :
    (∃ projection, resolve qualifier defaults columns excluded = .ok projection) ↔
      (∀ name, Asked defaults columns excluded name → columnFault? name = none) ∧
      ((∃ name, Asked defaults columns excluded name) → tableFault? qualifier = none) := by
  simp only [← mem_names_iff]
  rw [resolve, exists_mapM_iff]
  simp only [ProjectedColumn.exists_make_iff]
  constructor
  · intro each
    exact ⟨fun name asked => (each name asked).2, fun ⟨name, asked⟩ => (each name asked).1⟩
  · rintro ⟨columns, table⟩ name asked
    exact ⟨table ⟨name, asked⟩, columns name asked⟩

/-- Columns are resolved exactly if every name that is asked for may name a column and, where there
is one, the qualifier may name a table. Then every name that is asked for is the name of one column,
in the order of the lists, with the given qualifier. To exclude names from the lists before they are
united comes to the same, and order and repetitions of the excluded names do not matter. -/
theorem resolve_exact (qualifier : String) (defaults columns excluded : List String) :
    ((∃ projection, resolve qualifier defaults columns excluded = .ok projection) ↔
      (∀ name, Asked defaults columns excluded name → columnFault? name = none) ∧
      ((∃ name, Asked defaults columns excluded name) → tableFault? qualifier = none)) ∧
    (∀ projection, resolve qualifier defaults columns excluded = .ok projection →
      (projection.map (·.column.text)).Nodup ∧
      (∀ name, name ∈ projection.map (·.column.text) ↔ Asked defaults columns excluded name) ∧
      (projection.map (·.column.text)).Pairwise (fun x y =>
        (defaults ++ columns).idxOf x < (defaults ++ columns).idxOf y) ∧
      ∀ x ∈ projection, x.qualifier.text = qualifier) ∧
    resolve qualifier (defaults.filter (· ∉ excluded)) (columns.filter (· ∉ excluded)) [] =
      resolve qualifier defaults columns excluded ∧
    ∀ excluded', (∀ name, name ∈ excluded' ↔ name ∈ excluded) →
      resolve qualifier defaults columns excluded' =
        resolve qualifier defaults columns excluded := by
  refine ⟨exists_resolve_iff, fun projection resolved => ?_, ?_, fun excluded' same => ?_⟩
  · obtain ⟨qualified, texts⟩ :=
      TableColumns.texts_of_resolve (t := ⟨qualifier, defaults, columns, excluded⟩) resolved
    rw [texts]
    exact ⟨nodup_names, fun name => mem_names_iff, pairwise_idxOf_names, qualified⟩
  · rw [resolve, names_exclude_first, resolve]
  · rw [resolve, names_congr same, resolve]

/-- Of columns that are listed several times, one is selected each; an excluded name need not be
legal; and where no column is left, the alias of the table need not be legal either. -/
theorem resolve_exact_menu :
    (∃ projection,
      resolve "m" defaultColumns ["price", "id", "sold out", "price"] ["sold out", "created_at"] =
        .ok projection ∧
      (projection.map (·.column.text)).Nodup ∧
      (projection.map (·.column.text)).Pairwise (fun x y =>
        (defaultColumns ++ ["price", "id", "sold out", "price"]).idxOf x <
          (defaultColumns ++ ["price", "id", "sold out", "price"]).idxOf y)) ∧
    ∃ projection, resolve "select" ["id"] ["id"] ["id"] = .ok projection := by
  obtain ⟨accepted, exact, _⟩ := resolve_exact "m" defaultColumns
    ["price", "id", "sold out", "price"] ["sold out", "created_at"]
  have legal : ∀ name ∈ defaultColumns ++ ["price", "id", "sold out", "price"],
      name ∉ ["sold out", "created_at"] → columnFault? name = none := by
    decide +kernel
  obtain ⟨projection, resolved⟩ := accepted.2
    ⟨fun name asked => legal name (List.mem_append.2 asked.1) asked.2, fun _ => by decide +kernel⟩
  have vacant : ∀ name, ¬ Asked ["id"] ["id"] ["id"] name := by
    simp [Asked]
  refine ⟨⟨projection, resolved, ?_⟩, (resolve_exact "select" ["id"] ["id"] ["id"]).1.2 ?_⟩
  · obtain ⟨distinct, _, ordered, _⟩ := exact projection resolved
    exact ⟨distinct, ordered⟩
  · exact ⟨fun name asked => absurd asked (vacant name),
      fun ⟨name, asked⟩ => absurd asked (vacant name)⟩

end Projection

end BoundSql
