import BoundSql.Proofs.Alphabet

/-!
# Statements without stray placeholders

No name, keyword, operator or separator has a character that starts a placeholder, and neither
is a back-tick one. Only a raw text can bring one into a statement, so a statement whose raw
texts are plain is plain as a whole, whatever its values are.
-/

namespace BoundSql

open BoundSql.Symbol

/-- What statements are written with starts no placeholder. -/
theorem ordinary_of_written {c : Char} (clean : written c = true) : ordinary c = true := by
  simp only [ordinary, Bool.and_eq_true, bne_iff_ne, ne_eq]
  constructor
  · rintro rfl
    exact absurd clean (by decide)
  · rintro rfl
    exact absurd clean (by decide)

/-- A row whose extra characters are ordinary is plain. -/
theorem Symbol.Within.plain {symbols : List Symbol}
    (within : Within (fun c => ordinary c = true) symbols) : Plain symbols :=
  fun c member => (within c member).elim ordinary_of_written id

/-- A plain text has ordinary characters only. -/
theorem Symbol.Plain.within {text : String} (plain : Plain (ofText text)) :
    Within (fun c => ordinary c = true) (ofText text) :=
  fun c member => .inr (plain c member)

/-- A selection is plain if its raw texts are. -/
theorem Select.plain_draft {s : Select} (texts : ∀ text ∈ s.filter.rawTexts, Plain (ofText text))
    (joinTexts : ∀ join ∈ s.joins, ∀ text ∈ join.condition.rawTexts, Plain (ofText text)) :
    Plain s.draft.symbols :=
  (within_draft (fun text member => (texts text member).within) fun join member text inside =>
    (joinTexts join member text inside).within).plain

/-- A statement of any kind. -/
inductive Statement where
  | select (s : Select)
  | insert (s : Insert)
  | update (s : Update)
  | delete (s : Delete)

namespace Statement

/-- The clauses of a statement. -/
def draft : Statement → Draft
  | select s => s.draft
  | insert s => s.draft
  | update s => s.draft
  | delete s => s.draft

/-- The finished draft of a statement, or why there is none. -/
def assemble : Statement → Except QueryError Draft
  | select s => s.assemble
  | insert s => s.assemble
  | update s => s.assemble
  | delete s => .ok s.assemble

/-- The raw texts of a statement: those of its filter and of the conditions of its joins. -/
def rawTexts : Statement → List String
  | select s => s.filter.rawTexts ++ s.joins.flatMap fun join => join.condition.rawTexts
  | insert _ => []
  | update s => s.filter.rawTexts
  | delete s => s.filter.rawTexts

/-- What is assembled is the canonical form of the clauses. -/
theorem eq_canonical_of_assemble {s : Statement} {finished : Draft}
    (assembled : s.assemble = .ok finished) : finished = s.draft.canonical := by
  cases s with
  | select s =>
    simp only [assemble, Select.assemble] at assembled
    split at assembled
    · cases assembled
    · exact (Except.ok.inj assembled).symm
  | insert s =>
    simp only [assemble, Insert.assemble] at assembled
    split at assembled
    · cases assembled
    · exact (Except.ok.inj assembled).symm
  | update s =>
    simp only [assemble, Update.assemble] at assembled
    split at assembled
    · cases assembled
    · exact (Except.ok.inj assembled).symm
  | delete s => exact (Except.ok.inj assembled).symm

/-- What is said of the raw texts of a selection is said of those of its filter, and of those of
every join. -/
theorem forall_rawTexts_select {about : String → Prop} {s : Select} :
    (∀ text ∈ (select s).rawTexts, about text) ↔
      (∀ text ∈ s.filter.rawTexts, about text) ∧
        ∀ join ∈ s.joins, ∀ text ∈ join.condition.rawTexts, about text := by
  rw [rawTexts, List.forall_mem_append, List.forall_mem_flatMap]

/-- A statement needs back-ticks at most, and the extra characters that its raw texts do. -/
theorem within_draft {extra : Char → Prop} (ticks : extra '`') {s : Statement}
    (texts : ∀ text ∈ s.rawTexts, Within extra (ofText text)) :
    Within extra s.draft.symbols := by
  cases s with
  | select s =>
    obtain ⟨filterTexts, joinTexts⟩ := forall_rawTexts_select.1 texts
    exact Select.within_draft filterTexts joinTexts
  | insert s => exact s.within_draft
  | update s => exact Update.within_draft ticks texts
  | delete s => exact Delete.within_draft texts

/-- A statement is plain if its raw texts are. -/
theorem plain_draft {s : Statement} (texts : ∀ text ∈ s.rawTexts, Plain (ofText text)) :
    Plain s.draft.symbols :=
  (within_draft (by decide) fun text member => (texts text member).within).plain

end Statement

end BoundSql
