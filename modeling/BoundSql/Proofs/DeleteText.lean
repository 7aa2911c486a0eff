import BoundSql.Proofs.Decoding
import BoundSql.Proofs.QualifierScan

/-!
# The text of a deletion

A deletion writes its filter without the qualifier of its table: conditions leave their
qualifier out one by one, and raw texts are stripped one by one. The same text results
from one scan over the clause that a selection writes. Between two parts of a block there
is always a blank or a parenthesis, where the scan begins anew; inside a condition the
qualifier is the only place with a point.
-/

namespace BoundSql

open BoundSql.Symbol (ofText spell)
open Qualifier (scan)

/-- A character of a spelled row is one of its characters, or belongs to a placeholder. -/
theorem Symbol.mem_spell {style : PlaceholderStyle} {bound : Nat} {symbols : List Symbol} {c : Char}
    (member : c ∈ spell style bound symbols) :
    .char c ∈ symbols ∨ c = '?' ∨ c = '$' ∨ c.isDigit = true := by
  induction symbols generalizing bound with
  | nil => simp [spell] at member
  | cons symbol rest ih =>
    cases symbol with
    | char x =>
      rcases List.mem_cons.1 member with rfl | later
      · exact Or.inl List.mem_cons_self
      · exact (ih later).imp_left (List.mem_cons_of_mem _)
    | value v =>
      rcases List.mem_append.1 member with mark | later
      · cases style with
        | question => exact Or.inr (Or.inl (by simpa [PlaceholderStyle.mark] using mark))
        | dollar =>
          have parts : c = '$' ∨ c ∈ Nat.toDigits 10 (bound + 1) := by
            simpa [PlaceholderStyle.mark, Nat.repr] using mark
          rcases parts with lead | digit
          · exact Or.inr (Or.inr (Or.inl lead))
          · have isDigit := Nat.isDigit_of_mem_toDigits (by decide) (by decide) digit
            exact Or.inr (Or.inr (Or.inr isDigit))
      · exact (ih later).imp_left (List.mem_cons_of_mem _)

/-- Placeholders have no point, so a row without points is spelled without points. -/
theorem Symbol.point_not_mem_spell {style : PlaceholderStyle} {bound : Nat} {symbols : List Symbol}
    (absent : .char '.' ∉ symbols) : '.' ∉ spell style bound symbols := by
  intro member
  rcases mem_spell member with inside | question | dollar | digit
  · exact absent inside
  · exact absurd question (by decide)
  · exact absurd dollar (by decide)
  · exact absurd digit (by decide)

/-- The characters of a text are the symbols it consists of. -/
theorem Symbol.char_mem_ofText {s : String} {c : Char} : .char c ∈ ofText s ↔ c ∈ s.toList := by
  simp [ofText]

/-- Between values there is no point. -/
theorem Draft.point_not_mem_separated (vs : List Value) :
    .char '.' ∉ (separated ", " param vs).symbols := by
  induction vs with
  | nil => simp [separated]
  | cons v rest ih =>
    cases rest with
    | nil => simp [separated]
    | cons next more => simpa [separated, Symbol.char_mem_ofText] using ih

namespace Condition

/-- From the operator on, a condition has no point. -/
theorem point_not_mem_operator (c : Condition) :
    .char '.' ∉ ofText c.comparison.sql ++ ((operandDraft c.operand).symbols ++ ofText " )") := by
  have operator : '.' ∉ c.comparison.sql.toList := by
    cases c.comparison <;> decide
  have operand : .char '.' ∉ (operandDraft c.operand).symbols := by
    cases c.operand with
    | none => simp [operandDraft]
    | single v => simp [operandDraft, Symbol.char_mem_ofText]
    | list vs => simp [operandDraft, Symbol.char_mem_ofText, Draft.point_not_mem_separated vs]
  simp [Symbol.char_mem_ofText, operator, operand]

/-- In front of a column exactly the given qualifier is skipped. Any other qualifier is
kept as a whole, even if it ends with the given one. -/
theorem scan_target (name : TableName) (qualifier : Option TableName) (column : ColumnName)
    (style : PlaceholderStyle) (bound : Nat) :
    scan name.text.toList none
        (spell style bound ((qualifierDraft none qualifier).symbols ++ ofText column.text)) =
      spell style bound ((qualifierDraft (some name) qualifier).symbols ++ ofText column.text) := by
  cases qualifier with
  | none => simp [qualifierDraft, Qualifier.scan_of_no_point (column.isWord.not_mem (by decide))]
  | some other =>
    by_cases same : other = name
    · subst same
      have skipped : scan other.text.toList none (other.text.toList ++ '.' :: column.text.toList) =
          scan other.text.toList none column.text.toList := Qualifier.scan_qualifier rfl
      rw [Qualifier.scan_of_no_point (column.isWord.not_mem (by decide))] at skipped
      simpa [qualifierDraft] using skipped
    · have kept := Qualifier.scan_other_word name other column same
      have different : name ≠ other := fun equal => same equal.symm
      simpa [qualifierDraft, different] using kept

/-- The text of a condition, cut at the marks around its column. -/
theorem spell_draft (unqualified : Option TableName) (c : Condition) (style : PlaceholderStyle)
    (bound : Nat) :
    spell style bound (c.draft unqualified).symbols =
      '(' :: ' ' ::
        (spell style bound ((qualifierDraft unqualified c.qualifier).symbols ++ ofText c.column.text) ++
          ' ' :: spell style bound
            (ofText c.comparison.sql ++ ((operandDraft c.operand).symbols ++ ofText " )"))) := by
  have shape := symbols_draft_append unqualified c []
  simp only [List.append_nil] at shape
  rw [shape, Symbol.spell_ofText_append, Symbol.spell_append, Symbol.spell_append _ _ _ (ofText _)]
  simp

/-- A scan leaves out of a written condition what the condition itself leaves out when it
is written without the qualifier. -/
theorem scan_spell (name : TableName) (c : Condition) (style : PlaceholderStyle) (bound : Nat) :
    scan name.text.toList none (spell style bound (c.draft none).symbols) =
      spell style bound (c.draft (some name)).symbols := by
  have word := Qualifier.continuesWord_of_isWord name.isWord
  have operator : '.' ∉ spell style bound
      (ofText c.comparison.sql ++ ((operandDraft c.operand).symbols ++ ofText " )")) :=
    Symbol.point_not_mem_spell c.point_not_mem_operator
  rw [spell_draft, spell_draft, Qualifier.scan_mark_cons word (by decide),
    Qualifier.scan_mark_cons word (by decide), Qualifier.scan_append_mark word (by decide),
    scan_target, Qualifier.scan_of_no_point operator]

end Condition

/-- A raw text is scanned as it is stripped. -/
theorem Part.scan_rawText (name : TableName) (text : String) :
    scan name.text.toList none text.toList = (rawText (some name) text).toList :=
  (Qualifier.toList_remove name text).symm

/-- The text of a further part: its link between blanks, and the part. -/
theorem Block.spell_link (unqualified : Option TableName) (combinator : Combinator) (part : Part)
    (rest : Block) (style : PlaceholderStyle) (bound : Nat) :
    spell style bound ((Block.entry (some combinator) part rest).draft unqualified).symbols =
      ' ' :: (combinator.sql.toList ++ ' ' ::
        (spell style bound (part.draft unqualified).symbols ++
          spell style (bound + part.values.length) (rest.draft unqualified).symbols)) := by
  simp [Block.draft, Combinator.linkDraft, Symbol.spell_append]

/-- The text of a nested block: its first part, which has no link, and the others. -/
theorem Part.spell_group (unqualified : Option TableName) (part : Part) (rest : Block)
    (style : PlaceholderStyle) (bound : Nat) :
    spell style bound ((Part.group (.entry none part rest)).draft unqualified).symbols =
      '(' :: ((spell style bound (part.draft unqualified).symbols ++
        spell style (bound + part.values.length) (rest.draft unqualified).symbols) ++ [')']) := by
  simp [Part.draft, Block.draft, Combinator.linkDraft, Symbol.spell_append]

mutual

/-- A scan of a written part gives the part as it is written without the qualifier. -/
theorem Part.scan_spell (name : TableName) (style : PlaceholderStyle) : {part : Part} →
    part.WellLinked → (bound : Nat) →
      scan name.text.toList none (spell style bound (part.draft none).symbols) =
        spell style bound (part.draft (some name)).symbols
  | .condition c, _, bound => c.scan_spell name style bound
  | .group .empty, sound, _ => absurd rfl sound.1
  | .group (.entry link part rest), sound, bound => by
    obtain ⟨_, first, inner, others⟩ := sound
    have unlinked : link = none := by simpa using first
    subst unlinked
    have word := Qualifier.continuesWord_of_isWord name.isWord
    rw [Part.spell_group, Part.spell_group, Qualifier.scan_mark_cons word (by decide),
      Qualifier.scan_append_mark word (by decide), Block.scan_spell name style others,
      Part.scan_spell name style inner, Qualifier.scan_nil]
  | .text text, _, bound => by
    simpa [Part.draft, Part.rawText] using Part.scan_rawText name text

/-- A scan of the further parts of a block, behind any text, gives the scanned text and
the parts as they are written without the qualifier. -/
theorem Block.scan_spell (name : TableName) (style : PlaceholderStyle) : {block : Block} →
    block.WellLinked false → (before : List Char) → (bound : Nat) →
      scan name.text.toList none (before ++ spell style bound (block.draft none).symbols) =
        scan name.text.toList none before ++ spell style bound (block.draft (some name)).symbols
  | .empty, _, before, bound => by simp [Block.draft, spell]
  | .entry none part rest, sound, _, _ => by simp [Block.WellLinked] at sound
  | .entry (some combinator) part rest, sound, before, bound => by
    obtain ⟨_, inner, others⟩ := sound
    have word := Qualifier.continuesWord_of_isWord name.isWord
    have operator : '.' ∉ combinator.sql.toList := by cases combinator <;> decide
    -- the blank before the link cuts off the text in front, the blank behind it the link
    rw [Block.spell_link, Block.spell_link, Qualifier.scan_append_mark word (by decide),
      Qualifier.scan_append_mark word (by decide), Qualifier.scan_of_no_point operator,
      Block.scan_spell name style others, Part.scan_spell name style inner]

end

/-- A scan of a written WHERE clause gives the clause as it is written without the
qualifier. -/
theorem scan_whereDraft (name : TableName) (style : PlaceholderStyle) {filter : Block}
    (sound : filter.WellLinked true) :
    scan name.text.toList none (spell style 0 (whereDraft none filter).symbols) =
      spell style 0 (whereDraft (some name) filter).symbols := by
  cases filter with
  | empty => simp [whereDraft, Block.isEmpty, spell]
  | entry link part rest =>
    have word := Qualifier.continuesWord_of_isWord name.isWord
    have group : Part.WellLinked (.group (.entry link part rest)) := ⟨by simp, sound⟩
    have clause : ∀ unqualified, spell style 0 (whereDraft unqualified (.entry link part rest)).symbols =
        ' ' :: ("WHERE".toList ++ ' ' ::
          spell style 0 ((Part.group (.entry link part rest)).draft unqualified).symbols) := by
      intro unqualified
      simp [whereDraft, Block.isEmpty, Block.groupedDraft]
    have keyword : '.' ∉ "WHERE".toList := by decide
    rw [clause, clause, Qualifier.scan_mark_cons word (by decide),
      Qualifier.scan_append_mark word (by decide), Qualifier.scan_of_no_point keyword,
      Part.scan_spell name style group]

/-- The text of a selection without joins and orderings: the text without the filter, and
the clause of the filter. -/
theorem Select.text_filtered (table : TableRef) (columns : Projection) (filter : Block)
    (style : PlaceholderStyle) :
    ((draft { table, columns, filter }).canonical.bake style).text =
      ((draft { table, columns }).canonical.bake style).text ++
        String.ofList (spell style 0 (whereDraft none filter).symbols) := by
  have bindsNothing : (draft { table, columns }).values = [] := by
    simp [draft, orderDraft, whereDraft, Block.isEmpty]
  apply String.toList_injective
  rw [String.toList_append, Draft.toList_text_bake, Draft.toList_text_bake, Draft.symbols_canonical,
    Draft.symbols_canonical, symbols_filtered, Symbol.spell_append, Draft.values_symbols, bindsNothing]
  simp

/-- The text of a deletion: the table, and the clause of the filter without the qualifier. -/
theorem Delete.text_filtered (s : Delete) (style : PlaceholderStyle) :
    (s.assemble.bake style).text = "DELETE FROM " ++ s.table.name.text ++
      String.ofList (spell style 0 (whereDraft (some s.table.aliasName) s.filter).symbols) := by
  apply String.toList_injective
  rw [Draft.toList_text_bake, assemble, Draft.symbols_canonical]
  simp [draft]

/-- A deletion is the selection with the same filter, whose clause went through the
removal of the table's qualifier; and both bind the same values. -/
theorem Delete.text_eq_remove (table : TableRef) {columns : Projection} (present : columns ≠ [])
    {filter : Block} (reachable : filter.Reachable) (style : PlaceholderStyle) :
    ∃ selected unfiltered,
      Select.assemble { table, columns, filter } = .ok selected ∧
      Select.assemble { table, columns } = .ok unfiltered ∧
      (∃ clause, (selected.bake style).text = (unfiltered.bake style).text ++ clause) ∧
      ∀ clause, (selected.bake style).text = (unfiltered.bake style).text ++ clause →
        ((assemble { table, filter }).bake style).text =
          "DELETE FROM " ++ table.name.text ++ Qualifier.remove table.aliasName.text clause ∧
        ((assemble { table, filter }).bake style).params = (selected.bake style).params := by
  refine ⟨_, _, Select.assemble_eq_ok present, Select.assemble_eq_ok present, ?_, ?_⟩
  · exact ⟨_, Select.text_filtered table columns filter style⟩
  · intro clause split
    rw [Select.text_filtered] at split
    have written := (String.append_right_inj _).1 split
    have removed : Qualifier.remove table.aliasName.text clause =
        String.ofList (spell style 0 (whereDraft (some table.aliasName) filter).symbols) := by
      apply String.toList_injective
      rw [Qualifier.toList_remove, ← written, String.toList_ofList, String.toList_ofList]
      exact scan_whereDraft table.aliasName style reachable.wellLinked
    constructor
    · rw [text_filtered, removed]
    · simp [assemble, draft, Select.draft, Select.orderDraft]

namespace Sample

/-- A raw text with the qualifier at its beginning and inside another one, and a nested
block behind it. -/
def mixed : Block := (Block.empty.addText "u.id = mu.user_id").addGroup none nested

/-- The block is built by operations on blocks. -/
theorem reachable_mixed : mixed.Reachable :=
  (Block.Reachable.empty.addText _).addGroup reachable_nested none

end Sample

/-- A deletion by raw text and nested conditions is written as the stripped selection. -/
theorem Delete.text_eq_remove_mixed :
    [Sample.identity] ≠ [] ∧ Sample.mixed.Reachable ∧
      ∃ selected unfiltered,
        Select.assemble
          { table := Sample.users, columns := [Sample.identity], filter := Sample.mixed } =
            .ok selected ∧
        Select.assemble { table := Sample.users, columns := [Sample.identity] } = .ok unfiltered ∧
        (∃ clause, (selected.bake .dollar).text = (unfiltered.bake .dollar).text ++ clause) ∧
        ∀ clause, (selected.bake .dollar).text = (unfiltered.bake .dollar).text ++ clause →
          ((assemble { table := Sample.users, filter := Sample.mixed }).bake .dollar).text =
            "DELETE FROM " ++ Sample.users.name.text ++
              Qualifier.remove Sample.users.aliasName.text clause ∧
          ((assemble { table := Sample.users, filter := Sample.mixed }).bake .dollar).params =
            (selected.bake .dollar).params :=
  ⟨by simp, Sample.reachable_mixed,
    text_eq_remove Sample.users (by simp) Sample.reachable_mixed .dollar⟩

end BoundSql
