import BoundSql.Proofs.DeleteText

/-!
# Parentheses

Every parenthesis that a statement opens is closed in it, and none is closed that is not open, as
long as this is so of each raw text by itself. A reader that counts open parentheses (`depth`) passes
a balanced text at any depth and comes out at the same depth (`balanced_iff_level`). So it passes
every clause: names and separators have no parenthesis, and what stands between an opening and its
closing one is a clause again. Neither placeholders nor the qualifiers that a deletion takes out of
raw texts have parentheses (`Symbol.depth_spell`, `Qualifier.level_remove`).
-/

namespace BoundSql

open BoundSql.Symbol (ofText spell)

/-- Parentheses balance in a text: as many are closed as opened, and up to no place more are closed
than opened. -/
structure Balanced (text : String) : Prop where
  /-- As many are closed as opened. -/
  closed : text.toList.count ')' = text.toList.count '('
  /-- No beginning of the text closes more than it opens. -/
  opened : ∀ front, front <+: text.toList → front.count ')' ≤ front.count '('

namespace Symbol

/-- How many parentheses are open behind a symbol, where `opened` are open before it; nothing if it
closes one that is not open. -/
def depthBehind (opened : Nat) : Symbol → Option Nat
  | char c =>
    if c = '(' then some (opened + 1)
    else if c = ')' then (if opened = 0 then none else some (opened - 1))
    else some opened
  | value _ => some opened

/-- How many parentheses are open behind a row. -/
def depth (opened : Nat) (symbols : List Symbol) : Option Nat := symbols.foldlM depthBehind opened

/-- A row that closes what it opens, and nothing else, at whatever depth it stands. -/
def Level (symbols : List Symbol) : Prop := ∀ opened, depth opened symbols = some opened

variable {opened : Nat} {symbols xs ys : List Symbol} {style : PlaceholderStyle} {bound : Nat}

@[simp] theorem depth_nil : depth opened [] = some opened := rfl

/-- A row is read symbol by symbol. -/
theorem depth_cons (symbol : Symbol) (rest : List Symbol) :
    depth opened (symbol :: rest) = (depthBehind opened symbol).bind (depth · rest) := rfl

/-- A value is read without effect. -/
@[simp] theorem depth_cons_value (v : Value) (rest : List Symbol) :
    depth opened (value v :: rest) = depth opened rest := rfl

/-- Joined rows are read one after the other. -/
@[simp] theorem depth_append : depth opened (xs ++ ys) = (depth opened xs).bind (depth · ys) :=
  List.foldlM_append

/-- A statement about every beginning of a text is one about the empty one, and about those that
begin with its first character. -/
theorem forall_prefix_cons {c : Char} {rest : List Char} {about : List Char → Prop} :
    (∀ front, front <+: (c :: rest) → about front) ↔
      about [] ∧ ∀ front, front <+: rest → about (c :: front) := by
  simp only [List.prefix_cons_iff]
  constructor
  · exact fun every => ⟨every [] (.inl rfl), fun front starts => every _ (.inr ⟨front, rfl, starts⟩)⟩
  · rintro ⟨nothing, more⟩ front (rfl | ⟨tail, rfl, starts⟩)
    · exact nothing
    · exact more tail starts

/-- Behind a text, as many parentheses are open as before it, and those that it opens, less those
that it closes; it can be read as long as it closes open ones only. -/
theorem depth_eq_some_iff {after : Nat} {text : List Char} :
    depth opened (text.map char) = some after ↔
      opened + text.count '(' = after + text.count ')' ∧
        ∀ front, front <+: text → front.count ')' ≤ opened + front.count '(' := by
  induction text generalizing opened with
  | nil => simp
  | cons c rest ih =>
    rw [List.map_cons, depth_cons, forall_prefix_cons]
    by_cases opens : c = '('
    · subst opens
      simp [depthBehind, ih, Nat.add_assoc, Nat.add_comm 1]
    · by_cases closes : c = ')'
      · subst closes
        cases opened with
        | zero =>
          -- the first character itself closes what is not open
          have refused : (depthBehind 0 (char ')')).bind (depth · (rest.map char)) = none := rfl
          rw [refused]
          constructor
          · rintro ⟨⟩
          · rintro ⟨_, _, more⟩
            exact absurd (more [] List.nil_prefix) (by simp)
        | succ outer =>
          have passed : (depthBehind (outer + 1) (char ')')).bind (depth · (rest.map char)) =
              depth outer (rest.map char) := rfl
          rw [passed, ih]
          simp only [ne_eq, opens, not_false_eq_true, List.count_cons_of_ne, List.count_cons_self,
            List.count_nil, Nat.zero_le, true_and]
          exact and_congr (by omega) (forall₂_congr fun front _ => by omega)
      · simp [depthBehind, opens, closes, ih]

/-- A text is balanced exactly if a reader that starts outside of all parentheses ends there. -/
theorem balanced_iff_depth {text : String} : Balanced text ↔ depth 0 (ofText text) = some 0 := by
  rw [ofText, depth_eq_some_iff]
  simp only [Nat.zero_add]
  exact ⟨fun balanced => ⟨balanced.closed.symm, balanced.opened⟩, fun ⟨closed, opened⟩ =>
    ⟨closed.symm, opened⟩⟩

/-- A balanced text can be read at any depth, and ends at the same one. -/
theorem balanced_iff_level {text : String} : Balanced text ↔ Level (ofText text) := by
  constructor
  · intro balanced opened
    refine depth_eq_some_iff.2 ⟨by rw [balanced.closed], fun front starts => ?_⟩
    exact Nat.le_add_left_of_le (balanced.opened front starts)
  · exact fun level => balanced_iff_depth.2 (level 0)

/-- A row without parentheses is level. -/
theorem level_of_free (free : ∀ c, char c ∈ symbols → c ≠ '(' ∧ c ≠ ')') : Level symbols := by
  induction symbols with
  | nil => exact fun _ => rfl
  | cons symbol rest ih =>
    have others := ih fun c member => free c (List.mem_cons_of_mem symbol member)
    cases symbol with
    | value v => exact others
    | char c =>
      obtain ⟨notOpening, notClosing⟩ := free c List.mem_cons_self
      intro opened
      rw [depth_cons, depthBehind, if_neg notOpening, if_neg notClosing]
      exact others opened

/-- A character of a kind that neither parenthesis is of is no parenthesis. -/
theorem free_of_kind {kind : Char → Bool} {c : Char} (member : kind c = true)
    (opening : kind '(' = false) (closing : kind ')' = false) : c ≠ '(' ∧ c ≠ ')' := by
  constructor
  · rintro rfl
    rw [opening] at member
    cases member
  · rintro rfl
    rw [closing] at member
    cases member

/-- A fixed text without parentheses is level if the check of its characters says so. -/
@[simp] theorem depth_literal {s : String}
    (free : s.toList.all (fun c => c != '(' && c != ')') = true) :
    depth opened (ofText s) = some opened := by
  have level : Level (ofText s) := level_of_free fun c member => by
    simpa using List.all_eq_true.1 free c (char_mem_ofText.1 member)
  exact level opened

/-- Level rows are level one after the other. -/
theorem Level.append (first : Level xs) (second : Level ys) : Level (xs ++ ys) := fun opened => by
  rw [depth_append, first, Option.bind_some, second]

/-- A text that opens one parenthesis, a level row, and a text that closes one are level. -/
theorem Level.enclosed {s t : String} (opens : ∀ opened, depth opened (ofText s) = some (opened + 1))
    (closes : ∀ opened, depth (opened + 1) (ofText t) = some opened) (inside : Level xs) :
    Level (ofText s ++ (xs ++ ofText t)) := fun opened => by
  rw [depth_append, opens, Option.bind_some, depth_append, inside, Option.bind_some, closes]

/-- A placeholder has no parentheses. -/
theorem level_mark (style : PlaceholderStyle) (bound : Nat) :
    Level ((style.mark (bound + 1)).toList.map char) := by
  refine level_of_free fun c member => ?_
  have spelled : c ∈ spell style bound [value .null] := by simpa [spell] using member
  rcases mem_spell spelled with inside | rfl | rfl | digit
  · simp at inside
  · decide
  · decide
  · exact free_of_kind digit (by decide) (by decide)

/-- Placeholders take no part in how a row is read. -/
theorem depth_spell : depth opened ((spell style bound symbols).map char) = depth opened symbols := by
  induction symbols generalizing opened bound with
  | nil => rfl
  | cons symbol rest ih =>
    cases symbol with
    | char c =>
      rw [spell, List.map_cons, depth_cons, depth_cons]
      simp only [ih]
    | value v =>
      rw [spell, List.map_append, depth_append, level_mark, Option.bind_some, ih]
      rfl

end Symbol

open BoundSql.Symbol (Level balanced_iff_level)

instance : DecidablePred Balanced := fun _ => decidable_of_iff' _ Symbol.balanced_iff_depth

/-- As many are closed as opened, but one before it is opened. -/
example : Balanced "(a) OR (b)" ∧ ¬ Balanced "a) OR (b" := by decide

/-- A qualifier has no parentheses. -/
theorem Qualifier.level_qualifier {name : List Char} (word : ∀ c ∈ name, continuesWord c = true) :
    Level ((name ++ ['.']).map .char) := by
  refine Symbol.level_of_free fun c member => ?_
  have inside : c ∈ name ++ ['.'] := by simpa using member
  exact Symbol.free_of_kind (continuesWord_of_mem_qualifier word c inside) (by decide) (by decide)

/-- A scan takes nothing out of a text but qualifiers, which are read without effect. -/
theorem Qualifier.depth_scan {name text : List Char} {last : Option Char} {opened : Nat}
    (word : ∀ c ∈ name, continuesWord c = true) :
    Symbol.depth opened ((scan name last text).map .char) = Symbol.depth opened (text.map .char) := by
  fun_induction scan name last text generalizing opened with
  | case1 last => rfl
  | case2 last c rest skips ih =>
    obtain ⟨tail, shape⟩ := List.isPrefixOf_iff_prefix.1 (Bool.and_eq_true_iff.1 skips).1
    rw [ih, drop_qualifier shape, ← shape, List.map_append, Symbol.depth_append,
      level_qualifier word opened, Option.bind_some]
  | case3 last c rest copies ih =>
    rw [List.map_cons, List.map_cons, Symbol.depth_cons, Symbol.depth_cons]
    simp only [ih]

/-- Without the qualifier of a table, a text is level exactly if it is with it. -/
theorem Qualifier.level_remove {name : TableName} {text : String} :
    Level (ofText (remove name.text text)) ↔ Level (ofText text) := by
  refine forall_congr' fun opened => ?_
  rw [ofText, toList_remove, depth_scan (continuesWord_of_isWord name.isWord), ofText]

/-- Names have no parentheses. -/
theorem IsWord.level {name : String} (word : IsWord name) : Level (ofText name) := by
  refine Symbol.level_of_free fun c member => ?_
  have continues := word.continues c (Symbol.char_mem_ofText.1 member)
  exact Symbol.free_of_kind continues (by decide) (by decide)

section Clauses

variable {opened : Nat}

@[simp] theorem ColumnName.depth_text (name : ColumnName) :
    Symbol.depth opened (ofText name.text) = some opened := name.isWord.level opened

@[simp] theorem TableName.depth_text (name : TableName) :
    Symbol.depth opened (ofText name.text) = some opened := name.isWord.level opened

@[simp] theorem Comparison.depth_sql (comparison : Comparison) :
    Symbol.depth opened (ofText comparison.sql) = some opened := by
  cases comparison <;> exact Symbol.depth_literal (by decide)

@[simp] theorem Combinator.depth_sql (combinator : Combinator) :
    Symbol.depth opened (ofText combinator.sql) = some opened := by
  cases combinator <;> exact Symbol.depth_literal (by decide)

@[simp] theorem JoinKind.depth_sql (kind : JoinKind) :
    Symbol.depth opened (ofText kind.sql) = some opened := by
  cases kind <;> exact Symbol.depth_literal (by decide)

@[simp] theorem SortOrder.depth_sql (order : SortOrder) :
    Symbol.depth opened (ofText order.sql) = some opened := by
  cases order <;> exact Symbol.depth_literal (by decide)

end Clauses

/-- Level items with commas between them are level. -/
theorem Draft.level_separated {α : Type} {write : α → Draft} {items : List α}
    (each : ∀ item ∈ items, Level (write item).symbols) :
    Level (separated ", " write items).symbols := by
  induction items with
  | nil => exact fun _ => rfl
  | cons item rest ih =>
    have first := each item List.mem_cons_self
    have others := ih fun later member => each later (List.mem_cons_of_mem item member)
    cases rest with
    | nil => simpa [separated] using first
    | cons next more =>
      intro opened
      simp +decide [separated, first _, others _]

theorem Condition.level_qualifierDraft (unqualified qualifier : Option TableName) :
    Level (qualifierDraft unqualified qualifier).symbols := by
  intro opened
  cases qualifier with
  | none => simp [qualifierDraft]
  | some name =>
    simp only [qualifierDraft]
    split <;> simp +decide

/-- The values of a list stand in parentheses. -/
theorem Condition.level_operandDraft (operand : Operand) :
    Level (operandDraft operand).symbols := by
  cases operand with
  | none => exact fun _ => rfl
  | single v => exact fun _ => rfl
  | list vs =>
    have values : Level (Draft.separated ", " Draft.param vs).symbols :=
      Draft.level_separated fun _ _ _ => rfl
    have enclosed := Level.enclosed (s := " (") (t := ")") (fun _ => rfl) (fun _ => rfl) values
    simpa [operandDraft] using enclosed

/-- A condition stands in parentheses. -/
theorem Condition.level_draft (unqualified : Option TableName) (c : Condition) :
    Level (c.draft unqualified).symbols := by
  have target := level_qualifierDraft unqualified c.qualifier
  have operand := level_operandDraft c.operand
  have inside : Level ((qualifierDraft unqualified c.qualifier).symbols ++ (ofText c.column.text ++
      (ofText " " ++ (ofText c.comparison.sql ++ (operandDraft c.operand).symbols)))) := by
    intro opened
    simp +decide [target _, operand _]
  have enclosed := Level.enclosed (s := "( ") (t := " )") (fun _ => rfl) (fun _ => rfl) inside
  simpa [draft] using enclosed

/-- A raw text is level as before where the qualifier of a table is removed. -/
theorem Part.level_rawText {text : String} (level : Level (ofText text))
    (unqualified : Option TableName) : Level (ofText (rawText unqualified text)) := by
  cases unqualified with
  | none => exact level
  | some name => exact Qualifier.level_remove.2 level

theorem Combinator.level_linkDraft (link : Option Combinator) : Level (linkDraft link).symbols := by
  intro opened
  cases link <;> simp +decide [linkDraft]

mutual

/-- A part is level if its raw texts are: a nested block stands in parentheses. -/
theorem Part.level_draft (unqualified : Option TableName) : {part : Part} →
    (∀ text ∈ part.rawTexts, Level (ofText text)) → Level (part.draft unqualified).symbols
  | .condition c, _ => c.level_draft unqualified
  | .group .empty, _ => fun _ => rfl
  | .group (.entry link part rest), texts => by
    have inside : Level ((Block.entry link part rest).draft unqualified).symbols :=
      Block.level_draft unqualified texts
    have enclosed := Level.enclosed (s := "(") (t := ")") (fun _ => rfl) (fun _ => rfl) inside
    simpa [Part.draft] using enclosed
  | .text text, texts => by
    have level := Part.level_rawText (texts text (by simp [Part.rawTexts])) unqualified
    simpa [Part.draft] using level

/-- A block is level if its raw texts are. -/
theorem Block.level_draft (unqualified : Option TableName) : {block : Block} →
    (∀ text ∈ block.rawTexts, Level (ofText text)) → Level (block.draft unqualified).symbols
  | .empty, _ => fun _ => rfl
  | .entry link part rest, texts => by
    obtain ⟨firstTexts, otherTexts⟩ := List.forall_mem_append.1 texts
    have linked := Combinator.level_linkDraft link
    have first := Part.level_draft unqualified firstTexts
    have others := Block.level_draft unqualified otherTexts
    intro opened
    simp [Block.draft, linked _, first _, others _]

end

/-- A WHERE clause is level if the raw texts of its filter are. -/
theorem level_whereDraft (unqualified : Option TableName) {filter : Block}
    (texts : ∀ text ∈ filter.rawTexts, Level (ofText text)) :
    Level (whereDraft unqualified filter).symbols := by
  have grouped : Level (filter.groupedDraft unqualified).symbols :=
    Part.level_draft unqualified texts
  intro opened
  unfold whereDraft
  split
  · rfl
  · simp +decide [grouped _]

/-- A join is level if the raw texts of its condition are: the condition stands in parentheses. -/
theorem Join.level_draft {join : Join}
    (texts : ∀ text ∈ join.condition.rawTexts, Level (ofText text)) :
    Level join.draft.symbols := by
  have condition := Block.level_draft none texts
  have enclosed := Level.enclosed (s := " ON ( ") (t := " )") (fun _ => rfl) (fun _ => rfl) condition
  have heading : Level (ofText join.kind.sql ++ (ofText " " ++ (ofText join.table.text ++
      (ofText " " ++ ofText join.aliasName.text)))) := by
    intro opened
    simp +decide
  have clause := heading.append enclosed
  simpa [draft] using clause

theorem Projection.level_draft (columns : Projection) : Level columns.draft.symbols := by
  refine Draft.level_separated fun column _ opened => ?_
  simp +decide [ProjectedColumn.draft, ProjectedColumn.resultName]

theorem OrderBy.level_draft (ordering : OrderBy) : Level ordering.draft.symbols := by
  refine Draft.level_separated fun entry _ opened => ?_
  simp +decide

theorem Select.level_orderDraft (orderings : List OrderBy) :
    Level (orderDraft orderings).symbols := by
  have columns : ∀ used, Level (Draft.separated ", " OrderBy.draft used).symbols := fun used =>
    Draft.level_separated fun ordering _ => ordering.level_draft
  intro opened
  unfold orderDraft
  split
  · rfl
  · simp +decide [columns _ _]

/-- The joins of a selection are level if the raw texts of their conditions are. -/
theorem Select.level_joins {joins : List Join}
    (texts : ∀ join ∈ joins, ∀ text ∈ join.condition.rawTexts, Level (ofText text)) :
    Level (Draft.symbols (joins.flatMap fun join => Draft.text " " ++ join.draft)) := by
  intro opened
  induction joins with
  | nil => rfl
  | cons join rest ih =>
    have first := Join.level_draft (texts join List.mem_cons_self)
    have others := ih fun later member => texts later (List.mem_cons_of_mem join member)
    rw [List.flatMap_cons, Draft.symbols_append]
    simp +decide [first _, others]

/-- A selection is level if its raw texts are. -/
theorem Select.level_draft {s : Select} (texts : ∀ text ∈ s.filter.rawTexts, Level (ofText text))
    (joinTexts : ∀ join ∈ s.joins, ∀ text ∈ join.condition.rawTexts, Level (ofText text)) :
    Level s.draft.symbols := by
  have filter := level_whereDraft none texts
  have joins := level_joins joinTexts
  have columns := s.columns.level_draft
  have order := level_orderDraft s.orderings
  intro opened
  simp +decide [draft, filter _, joins _, columns _, order _]

/-- An insertion is level: its columns stand in parentheses, and so do its values. -/
theorem Insert.level_draft (s : Insert) : Level s.draft.symbols := by
  have targets : Level (Draft.separated ", " Assignment.targetDraft s.assignments).symbols := by
    refine Draft.level_separated fun assignment _ opened => ?_
    simp +decide [Assignment.targetDraft]
  have values : Level
      (Draft.separated ", " (fun a => Draft.param a.value) s.assignments).symbols :=
    Draft.level_separated fun _ _ _ => rfl
  have columns := Level.enclosed (s := "( ") (t := " )") (fun _ => rfl) (fun _ => rfl) targets
  have params := Level.enclosed (s := " VALUES( ") (t := " )") (fun _ => rfl) (fun _ => rfl) values
  have seam : ofText " ) VALUES( " = ofText " )" ++ ofText " VALUES( " := rfl
  have heading : Level (ofText "INSERT INTO " ++ ofText s.table.name.text) := by
    intro opened
    simp +decide
  have clauses := heading.append (columns.append params)
  simpa [draft, seam] using clauses

/-- An update is level if the raw texts of its filter are. -/
theorem Update.level_draft {s : Update} (texts : ∀ text ∈ s.filter.rawTexts, Level (ofText text)) :
    Level s.draft.symbols := by
  have filter := level_whereDraft none texts
  have assignments : Level (Draft.separated ", " Assignment.draft s.assignments).symbols := by
    refine Draft.level_separated fun assignment _ opened => ?_
    simp +decide [Assignment.draft]
  intro opened
  simp +decide [draft, filter _, assignments _]

/-- A deletion is level if the raw texts of its filter are. -/
theorem Delete.level_draft {s : Delete} (texts : ∀ text ∈ s.filter.rawTexts, Level (ofText text)) :
    Level s.draft.symbols := by
  have filter := level_whereDraft (some s.table.aliasName) texts
  intro opened
  simp +decide [draft, filter _]

namespace Statement

/-- A statement is level if its raw texts are. -/
theorem level_draft {s : Statement} (texts : ∀ text ∈ s.rawTexts, Level (ofText text)) :
    Level s.draft.symbols := by
  cases s with
  | select s =>
    obtain ⟨filterTexts, joinTexts⟩ := forall_rawTexts_select.1 texts
    exact Select.level_draft filterTexts joinTexts
  | insert s => exact s.level_draft
  | update s => exact Update.level_draft texts
  | delete s => exact Delete.level_draft texts

/-- Parentheses balance in every statement that can be assembled and whose raw texts are balanced
one by one, in either style. A deletion is no exception, which leaves out the qualifier of its table;
nor is any finished text from which a qualifier is removed. -/
theorem balanced_text {s : Statement} {finished : Draft} (assembled : s.assemble = .ok finished)
    (balanced : ∀ text ∈ s.rawTexts, Balanced text) (style : PlaceholderStyle) :
    Balanced (finished.bake style).text ∧
      ∀ name : TableName, Balanced (Qualifier.remove name.text (finished.bake style).text) := by
  have clauses : Level s.draft.symbols :=
    level_draft fun text member => balanced_iff_level.1 (balanced text member)
  have level : Level (ofText (finished.bake style).text) := by
    intro opened
    rw [ofText, Draft.toList_text_bake, Symbol.depth_spell, eq_canonical_of_assemble assembled,
      Draft.symbols_canonical]
    exact clauses opened
  exact ⟨balanced_iff_level.2 level, fun name =>
    balanced_iff_level.2 (Qualifier.level_remove.2 level)⟩

end Statement

namespace Sample

/-- A raw text with parentheses of its own, in a block of its own behind two conditions. -/
def bracketed : Delete :=
  { table := users
    filter := flat.addGroup none (Block.empty.addText "(u.age + 1) IN (u.low, (u.high))") }

end Sample

/-- Parentheses balance in a deletion by a list, a nested block and a raw text with parentheses. -/
theorem Statement.balanced_text_bracketed :
    assemble (.delete Sample.bracketed) = .ok Sample.bracketed.draft.canonical ∧
    (∀ text ∈ rawTexts (.delete Sample.bracketed), Balanced text) ∧
    (Sample.bracketed.draft.canonical.bake .dollar).text =
      "DELETE FROM users WHERE (( id IN ($1, $2) ) OR ( name = $3 ) AND ((age + 1) IN (low, (high))))" ∧
    Balanced (Sample.bracketed.draft.canonical.bake .dollar).text ∧
    Balanced (Qualifier.remove "users" (Sample.bracketed.draft.canonical.bake .dollar).text) := by
  have assembled : assemble (.delete Sample.bracketed) = .ok Sample.bracketed.draft.canonical := rfl
  have texts : ∀ text ∈ rawTexts (.delete Sample.bracketed), Balanced text := by
    have only : rawTexts (.delete Sample.bracketed) = ["(u.age + 1) IN (u.low, (u.high))"] := rfl
    rw [only]
    decide
  obtain ⟨written, removed⟩ := balanced_text assembled texts .dollar
  exact ⟨assembled, texts, by decide +kernel, written, removed Sample.users.name⟩

end BoundSql
