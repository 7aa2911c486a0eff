import BoundSql.Proofs.DeleteText

/-!
# The texts of statements

What a selection, an update and an insertion look like, written down directly: every clause
as one string, its keywords and operators included, with a question mark for every value. Drafts,
with their pieces and values and the joining of neighbours, come to the same
(`Statement.bake_eq_sql`), and bind the values of the clauses in the order in which the clauses
stand.

A draft is read by `Draft.sql`, which goes through `++` and separators, so a clause is
compared piece by piece. A tree of parts is compared by recursion; that a later part has a
combinator, and a nested block a part, is what it takes from how blocks are built.
-/

namespace BoundSql

/-- The operator of a condition, as it is written. -/
def Comparison.operator : Comparison → String
  | .equal => "="
  | .notEqual => "!="
  | .greater => ">"
  | .greaterOrEqual => ">="
  | .less => "<"
  | .lessOrEqual => "<="
  | .like => "LIKE"
  | .notLike => "NOT LIKE"
  | .among => "IN"
  | .notAmong => "NOT IN"
  | .isNull => "IS NULL"
  | .isNotNull => "IS NOT NULL"

/-- What stands between two parts; it is AND unless OR was asked for. -/
def linkSql : Option Combinator → String
  | some .or => " OR "
  | some .and | none => " AND "

/-- The keyword of a join, between blanks. -/
def JoinKind.keyword : JoinKind → String
  | .inner => " JOIN "
  | .left => " LEFT JOIN "

/-- The direction of a sort, behind a blank. -/
def SortOrder.keyword : SortOrder → String
  | .ascending => " ASC"
  | .descending => " DESC"

/-- What stands behind an operator: one question mark, or one for each of several values. -/
def Operand.sql : Operand → String
  | .none => ""
  | .single _ => " ?"
  | .list vs => " (" ++ ", ".intercalate (vs.map fun _ => "?") ++ ")"

/-- A condition as `( qualifier.column OP values )`. -/
def Condition.sql (c : Condition) : String :=
  let target := match c.qualifier with
    | none => c.column.text
    | some name => name.text ++ "." ++ c.column.text
  "( " ++ target ++ " " ++ c.comparison.operator ++ c.operand.sql ++ " )"

mutual

/-- A part: a condition, a nested block in parentheses, or raw text as it is. -/
def Part.sql : Part → String
  | .condition c => c.sql
  | .group block => "(" ++ block.sql ++ ")"
  | .text text => text

/-- The parts of a block with their combinators between them. -/
def Block.sql : Block → String
  | .empty => ""
  | .entry _ part rest => part.sql ++ rest.sqlBehind

/-- The parts behind another part, each with its combinator before it. -/
def Block.sqlBehind : Block → String
  | .empty => ""
  | .entry link part rest => linkSql link ++ part.sql ++ rest.sqlBehind

end

/-- The WHERE clause of a filter that has parts. -/
def whereSql (filter : Block) : String :=
  if filter.isEmpty then "" else " WHERE (" ++ filter.sql ++ ")"

/-- A selected column as `qualifier.column AS columnqualifier`. -/
def ProjectedColumn.sql (c : ProjectedColumn) : String :=
  c.qualifier.text ++ "." ++ c.column.text ++ " AS " ++ c.column.text ++ c.qualifier.text

/-- A join as `JOIN table alias ON ( condition )`, behind a blank. -/
def Join.sql (join : Join) : String :=
  join.kind.keyword ++ join.table.text ++ " " ++ join.aliasName.text ++
    " ON ( " ++ join.condition.sql ++ " )"

/-- The entries of an ordering, each as `alias.column DIRECTION`. -/
def OrderBy.sqlEntries (ordering : OrderBy) : List String :=
  ordering.entries.map fun entry =>
    ordering.aliasName.text ++ "." ++ entry.1.text ++ entry.2.keyword

/-- The ORDER BY clause of orderings that have entries. -/
def orderSql (orderings : List OrderBy) : String :=
  let entries := orderings.flatMap OrderBy.sqlEntries
  if entries.isEmpty then "" else " ORDER BY " ++ ", ".intercalate entries

/-- The text of a selection. -/
def Select.sql (s : Select) : String :=
  "SELECT " ++ ", ".intercalate (s.columns.map ProjectedColumn.sql) ++
    " FROM " ++ s.table.name.text ++ " AS " ++ s.table.aliasName.text ++
    String.join (s.joins.map Join.sql) ++ whereSql s.filter ++ orderSql s.orderings

/-- The text of an update. -/
def Update.sql (s : Update) : String :=
  "UPDATE " ++ s.table.name.text ++ " " ++ s.table.aliasName.text ++ " SET " ++
    ", ".intercalate (s.assignments.map fun a =>
      a.qualifier.text ++ ".`" ++ a.column.text ++ "` = ?") ++ whereSql s.filter

/-- The text of an insertion. -/
def Insert.sql (s : Insert) : String :=
  "INSERT INTO " ++ s.table.name.text ++ "( " ++
    ", ".intercalate (s.assignments.map fun a => a.qualifier.text ++ "." ++ a.column.text) ++
    " ) VALUES( " ++ ", ".intercalate (s.assignments.map fun _ => "?") ++ " )"

namespace Draft

/-- The text of a draft with a question mark for every value. -/
def sql (draft : Draft) : String := (draft.bake .question).text

/-- Question marks are not numbered. -/
theorem marked_question (bound : Nat) (draft : Draft) :
    marked .question bound draft = marked .question 0 draft := by
  induction draft generalizing bound with
  | nil => rfl
  | cons piece rest ih =>
    cases piece with
    | text s => simp [marked, ih bound]
    | param v =>
      rw [marked, marked, ih (bound + 1), ih (0 + 1)]
      rfl

@[simp] theorem sql_nil : sql [] = "" := rfl

/-- A text is written as it is. -/
@[simp] theorem sql_text (s : String) : (text s).sql = s := by
  simp [sql, bake, text, marked, String.join_cons]

/-- A value is written as a question mark. -/
@[simp] theorem sql_param (v : Value) : (param v).sql = "?" := rfl

/-- A composed draft is written one part after the other. -/
@[simp] theorem sql_append (first second : Draft) :
    sql (first ++ second) = sql first ++ sql second := by
  simp only [sql, bake]
  rw [marked_append, marked_question (0 + first.paramCount), String.join_append]

/-- Items are written with the separator between neighbours. -/
@[simp] theorem sql_separated {α : Type} (separator : String) (write : α → Draft)
    (items : List α) :
    (separated separator write items).sql =
      separator.intercalate (items.map fun item => (write item).sql) := by
  induction items with
  | nil => simp [separated]
  | cons item rest ih =>
    cases rest with
    | nil => simp [separated]
    | cons next more =>
      rw [separated, sql_append, sql_append, sql_text, ih]
      · exact String.intercalate_cons_cons.symm
      · exact List.cons_ne_nil next more

/-- Drafts one after the other are written one after the other. -/
theorem sql_flatMap {α : Type} (write : α → Draft) (items : List α) :
    sql (items.flatMap write) = String.join (items.map fun item => (write item).sql) := by
  induction items with
  | nil => rfl
  | cons item rest ih =>
    rw [List.flatMap_cons, sql_append, ih, List.map_cons, String.join_cons]

/-- Drafts one after the other bind their values one after the other. -/
theorem values_flatMap {α : Type} (write : α → Draft) (items : List α) :
    values (items.flatMap write) = items.flatMap fun item => (write item).values := by
  induction items with
  | nil => rfl
  | cons item rest ih => rw [List.flatMap_cons, values_append, ih, List.flatMap_cons]

/-- The canonical form is written alike. -/
theorem sql_canonical (draft : Draft) : sql (canonical draft) = sql draft := by
  apply String.toList_injective
  rw [sql, sql, toList_text_bake, toList_text_bake, symbols_canonical]

end Draft

/-- A comparison is written by its operator. -/
theorem Comparison.sql_eq_operator (comparison : Comparison) :
    comparison.sql = comparison.operator := by
  cases comparison <;> rfl

/-- A combinator is written between blanks. -/
theorem Combinator.sql_linkDraft (combinator : Combinator) :
    (linkDraft (some combinator)).sql = linkSql (some combinator) := by
  cases combinator <;> decide

/-- A join begins with its keyword, between blanks. -/
theorem JoinKind.sql_eq_keyword (kind : JoinKind) : " " ++ kind.sql ++ " " = kind.keyword := by
  cases kind <;> decide

/-- A direction is written behind a blank. -/
theorem SortOrder.sql_eq_keyword (order : SortOrder) : " " ++ order.sql = order.keyword := by
  cases order <;> decide

/-- An operand is written with one question mark for each of its values. -/
theorem Condition.sql_operandDraft (operand : Operand) :
    (operandDraft operand).sql = operand.sql := by
  cases operand with
  | none => rfl
  | single v => rfl
  | list vs => simp [operandDraft, Operand.sql, String.append_assoc]

/-- A condition is written as it says. -/
theorem Condition.sql_draft (c : Condition) : (c.draft none).sql = c.sql := by
  have operand := sql_operandDraft c.operand
  have operator := c.comparison.sql_eq_operator
  cases qualifier : c.qualifier with
  | none =>
    simp only [draft, sql, qualifierDraft, qualifier, operator, operand, Draft.sql_append,
      Draft.sql_text, Draft.sql_nil, String.append_empty]
  | some name =>
    simp only [draft, sql, qualifierDraft, qualifier, operator, operand, Draft.sql_append,
      Draft.sql_text, reduceCtorEq, if_false, String.append_assoc]

mutual

/-- A well linked part is written as it says. -/
theorem Part.sql_draft : {part : Part} → part.WellLinked → (part.draft none).sql = part.sql
  | .condition c, _ => c.sql_draft
  | .group .empty, ⟨present, _⟩ => absurd rfl present
  | .group (.entry link part rest), ⟨_, linked⟩ => by
    have inside := Block.sql_draft linked
    simp only [Part.draft, Draft.sql_append, Draft.sql_text, inside, Part.sql]
  | .text text, _ => by simp [Part.draft, Part.rawText, Part.sql]

/-- A well linked block is written as it says. -/
theorem Block.sql_draft : {block : Block} → block.WellLinked true →
    (block.draft none).sql = block.sql
  | .empty, _ => rfl
  | .entry link part rest, ⟨first, sound, others⟩ => by
    have unlinked : link = none := by simpa using first
    have head := Part.sql_draft sound
    have tail := Block.sql_draftBehind others
    simp only [Block.draft, unlinked, Combinator.linkDraft, Draft.sql_append, Draft.sql_nil, head,
      tail, Block.sql, String.empty_append]

/-- Behind another part a well linked row is written as it says. -/
theorem Block.sql_draftBehind : {block : Block} → block.WellLinked false →
    (block.draft none).sql = block.sqlBehind
  | .empty, _ => rfl
  | .entry none _ _, ⟨first, _, _⟩ => by simp at first
  | .entry (some combinator) part rest, ⟨_, sound, others⟩ => by
    have head := Part.sql_draft sound
    have tail := Block.sql_draftBehind others
    rw [Block.draft, Draft.sql_append, Draft.sql_append, Combinator.sql_linkDraft, head, tail,
      Block.sqlBehind]

end

/-- A WHERE clause is written as it says. -/
theorem sql_whereDraft {filter : Block} (linked : filter.WellLinked true) :
    (whereDraft none filter).sql = whereSql filter := by
  cases filter with
  | empty => rfl
  | entry link part rest =>
    have inside := Block.sql_draft linked
    simp only [whereDraft, whereSql, Block.isEmpty, Block.groupedDraft, Part.draft,
      Draft.sql_append, Draft.sql_text, inside, Bool.false_eq_true, if_false]
    rw [← String.append_assoc, ← String.append_assoc]
    rfl

/-- A join is written as it says. -/
theorem Join.sql_draft {join : Join} (linked : join.condition.WellLinked true) :
    (Draft.text " " ++ join.draft).sql = join.sql := by
  have condition := Block.sql_draft linked
  rw [sql, ← JoinKind.sql_eq_keyword]
  simp only [draft, Draft.sql_append, Draft.sql_text, condition, String.append_assoc]

/-- A row of rows, each with something in it, is written like one row. -/
theorem intercalate_flatten (separator : String) {rows : List (List String)}
    (present : ∀ row ∈ rows, row ≠ []) :
    separator.intercalate (rows.map separator.intercalate) =
      separator.intercalate rows.flatten := by
  induction rows with
  | nil => rfl
  | cons row rest ih =>
    have others := ih fun later member => present later (List.mem_cons_of_mem row member)
    cases rest with
    | nil => simp
    | cons next more =>
      have first : row ≠ [] := present row List.mem_cons_self
      have second : (next :: more).flatten ≠ [] := by
        have inside := present next (by simp)
        simp [inside]
      rw [List.flatten_cons, String.intercalate_append_of_ne_nil first second, ← others]
      exact String.intercalate_cons_cons

/-- An ordering is written entry by entry. -/
theorem OrderBy.sql_draft (ordering : OrderBy) :
    ordering.draft.sql = ", ".intercalate ordering.sqlEntries := by
  simp only [draft, sqlEntries, ← SortOrder.sql_eq_keyword, Draft.sql_append, Draft.sql_text,
    Draft.sql_separated, String.append_assoc]

/-- Orderings without entries leave no trace in the clause. -/
theorem sql_orderDraft (orderings : List OrderBy) :
    (Select.orderDraft orderings).sql = orderSql orderings := by
  have kept : orderings.flatMap OrderBy.sqlEntries =
      ((orderings.filter (!·.isEmpty)).map OrderBy.sqlEntries).flatten := by
    induction orderings with
    | nil => rfl
    | cons ordering rest ih =>
      by_cases vacant : ordering.entries = []
      · simp [OrderBy.isEmpty, OrderBy.sqlEntries, vacant, ih]
      · simp [OrderBy.isEmpty, vacant, ih]
  have present : ∀ row ∈ (orderings.filter (!·.isEmpty)).map OrderBy.sqlEntries, row ≠ [] := by
    intro row member
    obtain ⟨ordering, used, rfl⟩ := List.mem_map.1 member
    have filled := (List.mem_filter.1 used).2
    simpa [OrderBy.isEmpty, OrderBy.sqlEntries] using filled
  have rows := intercalate_flatten ", " present
  unfold orderSql Select.orderDraft
  rw [kept]
  cases shape : orderings.filter (!·.isEmpty) with
  | nil => rfl
  | cons first others =>
    rw [shape] at rows present
    have filled : ¬ ((first :: others).map OrderBy.sqlEntries).flatten.isEmpty = true := by
      have inside := present first.sqlEntries (by simp)
      simp [inside]
    rw [Draft.sql_append, Draft.sql_text, Draft.sql_separated, if_neg filled, ← rows, List.map_map]
    simp only [OrderBy.sql_draft, Function.comp_def]

/-- The joins of a selection are written one after the other. -/
theorem Select.sql_joins {joins : List Join}
    (linked : ∀ join ∈ joins, join.condition.WellLinked true) :
    Draft.sql (joins.flatMap fun join => Draft.text " " ++ join.draft) =
      String.join (joins.map Join.sql) := by
  rw [Draft.sql_flatMap]
  congr 1
  exact List.map_congr_left fun join member => Join.sql_draft (linked join member)

/-- A selection is written as it says. -/
theorem Select.sql_draft {s : Select} (filter : s.filter.WellLinked true)
    (linked : ∀ join ∈ s.joins, join.condition.WellLinked true) : s.draft.sql = s.sql := by
  have joins := sql_joins linked
  have clause := sql_whereDraft filter
  have columns : s.columns.draft.sql = ", ".intercalate (s.columns.map ProjectedColumn.sql) := by
    simp only [Projection.draft, Draft.sql_separated]
    congr 2
    funext column
    simp only [ProjectedColumn.draft, ProjectedColumn.sql, ProjectedColumn.resultName,
      Draft.sql_append, Draft.sql_text, String.append_assoc]
  simp only [draft, Draft.sql_append, Draft.sql_text, columns, joins, clause, sql_orderDraft]
  rfl

/-- An update is written as it says. -/
theorem Update.sql_draft {s : Update} (filter : s.filter.WellLinked true) :
    s.draft.sql = s.sql := by
  have clause := sql_whereDraft filter
  have assignment : ∀ a : Assignment,
      a.draft.sql = a.qualifier.text ++ ".`" ++ a.column.text ++ "` = ?" := by
    intro a
    simp only [Assignment.draft, Draft.sql_append, Draft.sql_text, Draft.sql_param,
      String.append_assoc, String.reduceAppend]
  simp only [draft, Draft.sql_append, Draft.sql_text, Draft.sql_separated, clause, assignment]
  rfl

/-- A target is written as it says. -/
theorem Assignment.sql_targetDraft (a : Assignment) :
    a.targetDraft.sql = a.qualifier.text ++ "." ++ a.column.text := by
  simp only [targetDraft, Draft.sql_append, Draft.sql_text]

/-- An insertion is written as it says. -/
theorem Insert.sql_draft (s : Insert) : s.draft.sql = s.sql := by
  simp only [draft, Draft.sql_append, Draft.sql_text, Draft.sql_separated, Draft.sql_param,
    Assignment.sql_targetDraft]
  rfl

/-- The finished form of a draft has its text and its values. -/
theorem Draft.bake_canonical (draft : Draft) :
    draft.canonical.bake .question = { text := draft.sql, params := draft.values } := by
  have text := sql_canonical draft
  have params : (draft.canonical.bake .question).params = draft.values := by simp
  rw [← text, ← params, sql]

/-- An ORDER BY clause binds nothing. -/
theorem Select.values_orderDraft (orderings : List OrderBy) :
    (orderDraft orderings).values = [] := by
  unfold orderDraft
  split
  · rfl
  · simp

/-- A selection binds the values of its joins, in order, and then those of its filter. -/
theorem Select.values_draft (s : Select) :
    s.draft.values = s.joins.flatMap (·.condition.values) ++ s.filter.values := by
  simp [draft, Draft.values_flatMap, values_orderDraft]

/-- An update binds the values it assigns, in order, and then those of its filter. -/
theorem Update.values_draft (s : Update) :
    s.draft.values = s.assignments.map (·.value) ++ s.filter.values := by
  simp [draft, List.map_eq_flatMap]

/-- An insertion binds its values, in order. -/
theorem Insert.values_draft (s : Insert) : s.draft.values = s.assignments.map (·.value) := by
  have targets : (s.assignments.flatMap fun a => a.targetDraft.values) = [] := by simp
  simp only [draft, Draft.values_append, Draft.values_text, Draft.values_separated, targets,
    Draft.values_param, List.map_eq_flatMap, List.nil_append, List.append_nil]

/-- Selections, updates and insertions are written clause by clause, as they say. The joins
bind the values of their conditions before the filter of a selection binds its own, and the
assignments of an update bind theirs before its filter. Only what has no column or no value
is refused. -/
theorem Statement.bake_eq_sql :
    (∀ s : Select, s.filter.Reachable → (∀ join ∈ s.joins, join.condition.Reachable) →
      s.assemble.map (·.bake .question) =
        if s.columns = [] then .error (.noColumns s.table.name)
        else .ok
          { text := s.sql
            params := s.joins.flatMap (·.condition.values) ++ s.filter.values }) ∧
    (∀ s : Update, s.filter.Reachable →
      s.assemble.map (·.bake .question) =
        if s.assignments = [] then .error (.noAssignments s.table.name)
        else .ok { text := s.sql, params := s.assignments.map (·.value) ++ s.filter.values }) ∧
    (∀ s : Insert,
      s.assemble.map (·.bake .question) =
        if s.assignments = [] then .error (.noValues s.table.name)
        else .ok { text := s.sql, params := s.assignments.map (·.value) }) := by
  refine ⟨?_, ?_, ?_⟩
  · intro s filter joins
    by_cases vacant : s.columns = []
    · simp [Select.assemble, vacant, Except.map]
    · have written := Select.sql_draft filter.wellLinked fun join member =>
        (joins join member).wellLinked
      rw [if_neg vacant, Select.assemble_eq_ok vacant, Except.map, Draft.bake_canonical, written,
        Select.values_draft]
  · intro s filter
    by_cases vacant : s.assignments = []
    · simp [Update.assemble, vacant, Except.map]
    · have present : ¬ s.assignments.isEmpty = true := by simpa using vacant
      rw [if_neg vacant, Update.assemble, if_neg present, Except.map, Draft.bake_canonical,
        Update.sql_draft filter.wellLinked, Update.values_draft]
  · intro s
    by_cases vacant : s.assignments = []
    · simp [Insert.assemble, vacant, Except.map]
    · have present : ¬ s.assignments.isEmpty = true := by simpa using vacant
      rw [if_neg vacant, Insert.assemble, if_neg present, Except.map, Draft.bake_canonical,
        Insert.sql_draft, Insert.values_draft]

namespace Sample

/-- The join `LEFT JOIN profiles p ON ( p.user_id = u.id AND ( p.level < 3 ) )`. -/
def profiles : Join :=
  let aliasName : TableName := ⟨"p", by decide +kernel⟩
  { table := ⟨"profiles", by decide +kernel⟩
    aliasName
    condition := (Block.empty.addText "p.user_id = u.id").addCondition none
      ⟨some aliasName, ⟨"level", by decide⟩, .less, .single (.integer 3), by decide⟩
    kind := .left
    cardinality := .oneToOne }

/-- Its condition is built by operations on blocks. -/
theorem reachable_profiles : profiles.condition.Reachable :=
  (Block.Reachable.empty.addText _).addCondition none _

/-- A selection with a join, a nested filter, and an ordering behind one without entries. -/
def overview : Select :=
  { table := users, columns := [identity], joins := [profiles], filter := mixed
    orderings := [.empty profiles.aliasName, ⟨users.aliasName, [(identity.column, .ascending)]⟩] }

end Sample

/-- The selection is written with all its clauses, and binds the value of its join first. -/
theorem Statement.bake_eq_sql_overview :
    Sample.overview.filter.Reachable ∧
    (∀ join ∈ Sample.overview.joins, join.condition.Reachable) ∧
    Sample.overview.assemble.map (·.bake .question) = .ok
      { text := "SELECT u.id AS idu FROM users AS u LEFT JOIN profiles p " ++
          "ON ( p.user_id = u.id AND ( p.level < ? ) ) WHERE (u.id = mu.user_id AND " ++
          "(( u.id IN (?, ?) ) OR (( name = ? )))) ORDER BY u.id ASC"
        params := [.integer 3, .integer 1, .integer 2, .text "Ada"] } := by
  have filter : Sample.overview.filter.Reachable := Sample.reachable_mixed
  have joins : ∀ join ∈ Sample.overview.joins, join.condition.Reachable := by
    intro join member
    rw [List.mem_singleton.1 member]
    exact Sample.reachable_profiles
  have text : Sample.overview.sql =
      "SELECT u.id AS idu FROM users AS u LEFT JOIN profiles p " ++
        "ON ( p.user_id = u.id AND ( p.level < ? ) ) WHERE (u.id = mu.user_id AND " ++
        "(( u.id IN (?, ?) ) OR (( name = ? )))) ORDER BY u.id ASC" := by
    decide +kernel
  refine ⟨filter, joins, ?_⟩
  rw [bake_eq_sql.1 Sample.overview filter joins, if_neg (by simp [Sample.overview]), text]
  rfl

end BoundSql
