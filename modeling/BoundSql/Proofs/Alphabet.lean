import BoundSql.Proofs.QualifierScan
import BoundSql.Proofs.Reachable
import BoundSql.Proofs.Symbols
import BoundSql.Statement

/-!
# The characters of clauses

Names, keywords, operators and separators are written with few characters (`written`). A clause
has no others, apart from those of its raw texts and from the back-ticks of an update. The row of
its symbols is then `Within` these extra characters, whatever the values are; every clause is
traced back to the names and the fixed texts it is put together from.
-/

namespace BoundSql

open BoundSql.Symbol (ofText)

/-- The characters of names, keywords, operators and separators. -/
def written (c : Char) : Bool :=
  continuesName c || [' ', '.', ',', '(', ')', '=', '!', '<', '>'].contains c

namespace Symbol

/-- The row has no characters but those of names, keywords, operators and separators, and some
extra ones. -/
def Within (extra : Char → Prop) (symbols : List Symbol) : Prop :=
  ∀ c, char c ∈ symbols → written c = true ∨ extra c

variable {extra : Char → Prop}

@[simp] theorem within_nil : Within extra [] := by simp [Within]

/-- Values do not matter. -/
@[simp] theorem within_cons_value {v : Value} {rest : List Symbol} :
    Within extra (value v :: rest) ↔ Within extra rest := by simp [Within]

/-- Joined rows are within the extra characters exactly if both are. -/
@[simp] theorem within_append {xs ys : List Symbol} :
    Within extra (xs ++ ys) ↔ Within extra xs ∧ Within extra ys := by
  simp only [Within, List.mem_append, or_imp, forall_and]

/-- A text is within the extra characters exactly if all its characters are written or extra. -/
theorem within_ofText {s : String} :
    Within extra (ofText s) ↔ ∀ c ∈ s.toList, written c = true ∨ extra c := by
  simp [Within, ofText]

/-- A fixed text needs no extra characters if the check of its characters says so. -/
@[simp] theorem within_literal {s : String} (clean : s.toList.all written = true) :
    Within extra (ofText s) :=
  within_ofText.2 fun c member => .inl (List.all_eq_true.1 clean c member)

end Symbol

open BoundSql.Symbol (Within)

variable {extra : Char → Prop}

/-- A name is written with the characters of names. -/
theorem IsWord.within {name : String} (word : IsWord name) : Within extra (ofText name) :=
  Symbol.within_ofText.2 fun c member => .inl (by simp [written, word.continues c member])

@[simp] theorem ColumnName.within (name : ColumnName) : Within extra (ofText name.text) :=
  name.isWord.within

@[simp] theorem TableName.within (name : TableName) : Within extra (ofText name.text) :=
  name.isWord.within

@[simp] theorem Comparison.within_sql (comparison : Comparison) :
    Within extra (ofText comparison.sql) := by
  cases comparison <;> exact Symbol.within_literal (by decide)

@[simp] theorem Combinator.within_sql (combinator : Combinator) :
    Within extra (ofText combinator.sql) := by
  cases combinator <;> exact Symbol.within_literal (by decide)

@[simp] theorem JoinKind.within_sql (kind : JoinKind) : Within extra (ofText kind.sql) := by
  cases kind <;> exact Symbol.within_literal (by decide)

@[simp] theorem SortOrder.within_sql (order : SortOrder) : Within extra (ofText order.sql) := by
  cases order <;> exact Symbol.within_literal (by decide)

/-- Items with commas between them need the extra characters that the items do. -/
theorem Draft.within_separated {α : Type} {write : α → Draft} {items : List α}
    (each : ∀ item ∈ items, Within extra (write item).symbols) :
    Within extra (separated ", " write items).symbols := by
  induction items with
  | nil => simp [separated]
  | cons item rest ih =>
    have first := each item List.mem_cons_self
    have others := ih fun later member => each later (List.mem_cons_of_mem item member)
    cases rest with
    | nil => simpa [separated] using first
    | cons next more => simp +decide [separated, first, others]

theorem Condition.within_qualifierDraft (unqualified qualifier : Option TableName) :
    Within extra (qualifierDraft unqualified qualifier).symbols := by
  cases qualifier with
  | none => simp [qualifierDraft]
  | some name =>
    simp only [qualifierDraft]
    split <;> simp +decide

theorem Condition.within_operandDraft (operand : Operand) :
    Within extra (operandDraft operand).symbols := by
  cases operand with
  | none => simp [operandDraft]
  | single v => simp +decide [operandDraft]
  | list vs =>
    have inside : Within extra (Draft.separated ", " Draft.param vs).symbols :=
      Draft.within_separated (by simp)
    simp +decide [operandDraft, inside]

/-- A condition needs no extra characters, whatever its values are. -/
theorem Condition.within_draft (unqualified : Option TableName) (c : Condition) :
    Within extra (c.draft unqualified).symbols := by
  have target : Within extra (qualifierDraft unqualified c.qualifier).symbols :=
    within_qualifierDraft unqualified c.qualifier
  have operand : Within extra (operandDraft c.operand).symbols := within_operandDraft c.operand
  simp +decide [draft, target, operand]

/-- The removal of a qualifier brings no characters into a text. -/
theorem Part.within_rawText {text : String} (within : Within extra (ofText text))
    (unqualified : Option TableName) : Within extra (ofText (rawText unqualified text)) := by
  cases unqualified with
  | none => exact within
  | some name =>
    have kept := Qualifier.scan_sublist name.text.toList none text.toList
    rw [← Qualifier.toList_remove] at kept
    exact Symbol.within_ofText.2 fun c member =>
      Symbol.within_ofText.1 within c (kept.subset member)

theorem Combinator.within_linkDraft (link : Option Combinator) :
    Within extra (linkDraft link).symbols := by
  cases link <;> simp +decide [linkDraft]

mutual

/-- A part needs the extra characters that its raw texts do. -/
theorem Part.within_draft (unqualified : Option TableName) : {part : Part} →
    (∀ text ∈ part.rawTexts, Within extra (ofText text)) →
      Within extra (part.draft unqualified).symbols
  | .condition c, _ => c.within_draft unqualified
  | .group .empty, _ => by simp [Part.draft]
  | .group (.entry link part rest), texts => by
    have inside := Block.within_draft unqualified texts
    simp +decide [Part.draft, inside]
  | .text text, texts => by
    have within := Part.within_rawText (texts text (by simp [Part.rawTexts])) unqualified
    simpa [Part.draft] using within

/-- A block needs the extra characters that its raw texts do. -/
theorem Block.within_draft (unqualified : Option TableName) : {block : Block} →
    (∀ text ∈ block.rawTexts, Within extra (ofText text)) →
      Within extra (block.draft unqualified).symbols
  | .empty, _ => by simp [Block.draft]
  | .entry link part rest, texts => by
    obtain ⟨firstTexts, otherTexts⟩ := List.forall_mem_append.1 texts
    have first := Part.within_draft unqualified firstTexts
    have others := Block.within_draft unqualified otherTexts
    simp [Block.draft, Combinator.within_linkDraft, first, others]

end

/-- A WHERE clause needs the extra characters that the raw texts of its filter do. -/
theorem within_whereDraft (unqualified : Option TableName) {filter : Block}
    (texts : ∀ text ∈ filter.rawTexts, Within extra (ofText text)) :
    Within extra (whereDraft unqualified filter).symbols := by
  have grouped : Within extra (filter.groupedDraft unqualified).symbols :=
    Part.within_draft unqualified texts
  unfold whereDraft
  split
  · simp
  · simp +decide [grouped]

/-- A join needs the extra characters that the raw texts of its condition do. -/
theorem Join.within_draft {join : Join}
    (texts : ∀ text ∈ join.condition.rawTexts, Within extra (ofText text)) :
    Within extra join.draft.symbols := by
  have condition := Block.within_draft none texts
  simp +decide [draft, condition]

theorem Projection.within_draft (columns : Projection) : Within extra columns.draft.symbols := by
  refine Draft.within_separated fun column _ => ?_
  simp +decide [ProjectedColumn.draft, ProjectedColumn.resultName]

theorem OrderBy.within_draft (ordering : OrderBy) : Within extra ordering.draft.symbols := by
  refine Draft.within_separated fun entry _ => ?_
  simp +decide

theorem Select.within_orderDraft (orderings : List OrderBy) :
    Within extra (orderDraft orderings).symbols := by
  have columns : ∀ used, Within extra (Draft.separated ", " OrderBy.draft used).symbols :=
    fun used => Draft.within_separated fun ordering _ => ordering.within_draft
  unfold orderDraft
  split
  · simp
  · simp +decide [columns]

/-- The joins of a selection need the extra characters that the raw texts of their conditions
do. -/
theorem Select.within_joins {joins : List Join}
    (texts : ∀ join ∈ joins, ∀ text ∈ join.condition.rawTexts, Within extra (ofText text)) :
    Within extra (Draft.symbols (joins.flatMap fun join => Draft.text " " ++ join.draft)) := by
  induction joins with
  | nil => simp
  | cons join rest ih =>
    have first := Join.within_draft (texts join List.mem_cons_self)
    have others := ih fun later member => texts later (List.mem_cons_of_mem join member)
    rw [List.flatMap_cons, Draft.symbols_append]
    simp +decide [first, others]

/-- A selection needs the extra characters that its raw texts do. -/
theorem Select.within_draft {s : Select}
    (texts : ∀ text ∈ s.filter.rawTexts, Within extra (ofText text))
    (joinTexts : ∀ join ∈ s.joins, ∀ text ∈ join.condition.rawTexts, Within extra (ofText text)) :
    Within extra s.draft.symbols := by
  have filter := within_whereDraft none texts
  have joins := within_joins joinTexts
  have columns : Within extra s.columns.draft.symbols := s.columns.within_draft
  have order : Within extra (orderDraft s.orderings).symbols := within_orderDraft s.orderings
  simp +decide [draft, filter, joins, columns, order]

/-- An insertion needs no extra characters. -/
theorem Insert.within_draft (s : Insert) : Within extra s.draft.symbols := by
  have targets : Within extra
      (Draft.separated ", " Assignment.targetDraft s.assignments).symbols := by
    refine Draft.within_separated fun assignment _ => ?_
    simp +decide [Assignment.targetDraft]
  have values : Within extra
      (Draft.separated ", " (fun a => Draft.param a.value) s.assignments).symbols :=
    Draft.within_separated (by simp)
  simp +decide [draft, targets, values]

/-- An update needs back-ticks, and the extra characters that its raw texts do. -/
theorem Update.within_draft {s : Update} (ticks : extra '`')
    (texts : ∀ text ∈ s.filter.rawTexts, Within extra (ofText text)) :
    Within extra s.draft.symbols := by
  have filter := within_whereDraft none texts
  have opening : Within extra (ofText ".`") := by
    refine Symbol.within_ofText.2 ?_
    simp +decide [ticks]
  have closing : Within extra (ofText "` = ") := by
    refine Symbol.within_ofText.2 ?_
    simp +decide [ticks]
  have assignments : Within extra
      (Draft.separated ", " Assignment.draft s.assignments).symbols := by
    refine Draft.within_separated fun assignment _ => ?_
    simp [Assignment.draft, opening, closing]
  simp +decide [draft, filter, assignments]

/-- A deletion needs the extra characters that its raw texts do. -/
theorem Delete.within_draft {s : Delete}
    (texts : ∀ text ∈ s.filter.rawTexts, Within extra (ofText text)) :
    Within extra s.draft.symbols := by
  have filter := within_whereDraft (some s.table.aliasName) texts
  simp +decide [draft, filter]

end BoundSql
