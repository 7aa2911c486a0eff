import BoundSql.Proofs.Alike
import BoundSql.Query
import BoundSql.Statement

/-!
# Alike statements

Alike statements are written alike: the same pieces of text at the same places, and
related values between them. Finished in either style, the texts are the same character
for character, and the values are related place by place: what stands in the text for a
value is its number, not the value.
-/

namespace BoundSql

variable {R : Value → Value → Prop}

/-- The same text, or related values. -/
inductive Fragment.Alike (R : Value → Value → Prop) : Fragment → Fragment → Prop where
  | text (s : String) : Fragment.Alike R (.text s) (.text s)
  | param {v v' : Value} (values : R v v') : Fragment.Alike R (.param v) (.param v')

/-- Queries with the same text and related values. -/
structure Query.Alike (R : Value → Value → Prop) (query query' : Query) : Prop where
  text : query.text = query'.text
  params : List.Forall₂ R query.params query'.params

namespace Draft

/-- Drafts that differ in values only. -/
def Alike (R : Value → Value → Prop) (draft draft' : Draft) : Prop :=
  List.Forall₂ (Fragment.Alike R) draft draft'

variable {draft draft' more more' : Draft}

theorem alike_nil : Alike R [] [] := .nil

theorem alike_text (s : String) : Alike R (text s) (text s) := .cons (.text s) .nil

theorem alike_param {v v' : Value} (values : R v v') : Alike R (param v) (param v') :=
  .cons (.param values) .nil

theorem Alike.append (first : Alike R draft draft') (second : Alike R more more') :
    Alike R (draft ++ more) (draft' ++ more') :=
  List.rel_append first second

/-- A draft without values is alike to itself, whatever the relation is. -/
theorem alike_of_values_eq_nil (bare : draft.values = []) : Alike R draft draft := by
  induction draft with
  | nil => exact alike_nil
  | cons piece rest ih =>
    cases piece with
    | text s => exact .cons (.text s) (ih bare)
    | param v => simp [values] at bare

/-- Related items are written alike with the same separator between them. -/
theorem separated_alike {α : Type} {related : α → α → Prop} {write write' : α → Draft}
    {items items' : List α} (separator : String) (lists : List.Forall₂ related items items')
    (each : ∀ item item', related item item' → Alike R (write item) (write' item')) :
    Alike R (separated separator write items) (separated separator write' items') := by
  induction lists with
  | nil => exact alike_nil
  | cons heads tails ih =>
    have first := each _ _ heads
    cases tails with
    | nil => exact first
    | cons nexts others => exact (first.append (alike_text separator)).append ih

/-- Values are bound by the same list of placeholders. -/
theorem separated_param_alike {vs vs' : List Value} (values : List.Forall₂ R vs vs') :
    Alike R (separated ", " param vs) (separated ", " param vs') :=
  separated_alike ", " values fun _ _ => alike_param

/-- Alike drafts stay alike with a text in front of them. -/
theorem Alike.prependText (drafts : Alike R draft draft') (s : String) :
    Alike R (prependText s draft) (prependText s draft') := by
  by_cases vacant : s = ""
  · rwa [vacant, prependText_empty, prependText_empty]
  cases drafts with
  | nil =>
    rw [prependText_nil vacant]
    exact alike_text s
  | cons heads tails =>
    cases heads with
    | text t =>
      rw [prependText_text vacant, prependText_text vacant]
      exact .cons (.text (s ++ t)) tails
    | param values =>
      rw [prependText_param vacant, prependText_param vacant]
      exact .cons (.text s) (.cons (.param values) tails)

/-- Alike drafts stay alike in canonical form: the texts decide which pieces are joined. -/
theorem Alike.canonical (drafts : Alike R draft draft') :
    Alike R draft.canonical draft'.canonical := by
  induction drafts with
  | nil => exact alike_nil
  | cons heads tails ih =>
    cases heads with
    | param values => exact .cons (.param values) ih
    | text s =>
      rw [canonical_cons_text, canonical_cons_text]
      exact ih.prependText s

/-- Alike drafts have the same pieces of text in either style. -/
theorem Alike.marked (drafts : Alike R draft draft') (style : PlaceholderStyle) (bound : Nat) :
    marked style bound draft = marked style bound draft' := by
  induction drafts generalizing bound with
  | nil => rfl
  | cons heads tails ih =>
    cases heads with
    | text s => rw [Draft.marked, Draft.marked, ih]
    | param values => rw [Draft.marked, Draft.marked, ih]

/-- Alike drafts have related values, place by place. -/
theorem Alike.values (drafts : Alike R draft draft') :
    List.Forall₂ R draft.values draft'.values := by
  induction drafts with
  | nil => exact .nil
  | cons heads tails ih =>
    cases heads with
    | text s => exact ih
    | param values => exact .cons values ih

/-- Alike drafts are finished to the same text, with related values. -/
theorem Alike.bake (drafts : Alike R draft draft') (style : PlaceholderStyle) :
    (draft.bake style).Alike R (draft'.bake style) := by
  constructor
  · unfold Draft.bake
    rw [drafts.marked]
  · rw [params_bake, params_bake]
    exact drafts.values

end Draft

namespace Condition

theorem operandDraft_alike {operand operand' : Operand} (operands : operand.Alike R operand') :
    (operandDraft operand).Alike R (operandDraft operand') := by
  cases operands with
  | none => exact Draft.alike_nil
  | single values => exact (Draft.alike_text " ").append (Draft.alike_param values)
  | list values =>
    have inside := Draft.separated_param_alike values
    exact ((Draft.alike_text " (").append inside).append (Draft.alike_text ")")

/-- Alike conditions are written alike. -/
theorem Alike.draft {c c' : Condition} (conditions : c.Alike R c')
    (unqualified : Option TableName) : (c.draft unqualified).Alike R (c'.draft unqualified) := by
  unfold Condition.draft
  rw [conditions.qualifier, conditions.column, conditions.comparison]
  have target : Draft.Alike R
      (Draft.text "( " ++ qualifierDraft unqualified c'.qualifier ++ Draft.text c'.column.text ++
        Draft.text " " ++ Draft.text c'.comparison.sql) _ := Draft.alike_of_values_eq_nil (by simp)
  have operand := operandDraft_alike conditions.operand
  exact (target.append operand).append (Draft.alike_text " )")

end Condition

theorem Combinator.linkDraft_alike (link : Option Combinator) :
    (linkDraft link).Alike R (linkDraft link) :=
  Draft.alike_of_values_eq_nil (values_linkDraft link)

mutual

/-- Alike parts are written alike. -/
theorem Part.Alike.draft (unqualified : Option TableName) : {part part' : Part} →
    part.Alike R part' → (part.draft unqualified).Alike R (part'.draft unqualified)
  | _, _, .condition conditions => conditions.draft unqualified
  | _, _, .group .empty => Draft.alike_nil
  | _, _, .group (.entry link parts others) => by
    have inside := Block.Alike.draft unqualified (.entry link parts others)
    exact ((Draft.alike_text "(").append inside).append (Draft.alike_text ")")
  | _, _, .text text => Draft.alike_text _

/-- Alike blocks are written alike. -/
theorem Block.Alike.draft (unqualified : Option TableName) : {block block' : Block} →
    block.Alike R block' → (block.draft unqualified).Alike R (block'.draft unqualified)
  | _, _, .empty => Draft.alike_nil
  | _, _, .entry link parts others => by
    have first := Part.Alike.draft unqualified parts
    have later := Block.Alike.draft unqualified others
    exact ((Combinator.linkDraft_alike link).append first).append later

end

/-- Alike filters have alike clauses. -/
theorem whereDraft_alike {filter filter' : Block} (filters : filter.Alike R filter')
    (unqualified : Option TableName) :
    (whereDraft unqualified filter).Alike R (whereDraft unqualified filter') := by
  unfold whereDraft Block.groupedDraft
  rw [filters.isEmpty]
  by_cases vacant : filter'.isEmpty = true
  · rw [if_pos vacant, if_pos vacant]
    exact Draft.alike_nil
  · rw [if_neg vacant, if_neg vacant]
    have group := Part.Alike.draft unqualified (.group filters)
    exact (Draft.alike_text " WHERE ").append group

/-- Alike joins are written alike. -/
theorem Join.Alike.draft {join join' : Join} (joined : join.Alike R join') :
    join.draft.Alike R join'.draft := by
  unfold Join.draft
  rw [joined.kind, joined.table, joined.aliasName]
  have target : Draft.Alike R
      (Draft.text join'.kind.sql ++ Draft.text " " ++ Draft.text join'.table.text ++
        Draft.text " " ++ Draft.text join'.aliasName.text ++ Draft.text " ON ( ") _ :=
    Draft.alike_of_values_eq_nil (by simp)
  have condition := joined.condition.draft none
  exact (target.append condition).append (Draft.alike_text " )")

/-- Selections that differ in values only. -/
structure Select.Alike (R : Value → Value → Prop) (s s' : Select) : Prop where
  table : s.table = s'.table
  columns : s.columns = s'.columns
  joins : List.Forall₂ (Join.Alike R) s.joins s'.joins
  filter : s.filter.Alike R s'.filter
  orderings : s.orderings = s'.orderings

theorem Select.orderDraft_alike (orderings : List OrderBy) :
    (orderDraft orderings).Alike R (orderDraft orderings) := by
  apply Draft.alike_of_values_eq_nil
  unfold orderDraft
  split
  · rfl
  · simp

/-- Alike selections are written alike. -/
theorem Select.Alike.draft {s s' : Select} (selections : s.Alike R s') :
    s.draft.Alike R s'.draft := by
  have joins : Draft.Alike R (s.joins.flatMap fun join => Draft.text " " ++ join.draft)
      (s'.joins.flatMap fun join => Draft.text " " ++ join.draft) :=
    List.rel_flatMap selections.joins fun _ _ joined => (Draft.alike_text " ").append joined.draft
  unfold Select.draft
  rw [selections.table, selections.columns, selections.orderings]
  have source : Draft.Alike R
      (Draft.text "SELECT " ++ s'.columns.draft ++ Draft.text " FROM " ++
        Draft.text s'.table.name.text ++ Draft.text " AS " ++
        Draft.text s'.table.aliasName.text) _ := Draft.alike_of_values_eq_nil (by simp)
  have filter := whereDraft_alike selections.filter none
  have order : (orderDraft s'.orderings).Alike R _ := orderDraft_alike _
  exact ((source.append joins).append filter).append order

/-- Alike selections are assembled alike, or refused for the same reason. -/
theorem Select.Alike.assemble {s s' : Select} (selections : s.Alike R s') :
    Outcome.Alike (Draft.Alike R) s.assemble s'.assemble := by
  have drafts := selections.draft.canonical
  unfold Select.assemble
  rw [selections.columns, selections.table]
  by_cases absent : s'.columns.isEmpty = true
  · rw [if_pos absent, if_pos absent]
    exact .error _
  · rw [if_neg absent, if_neg absent]
    exact .ok drafts

/-- Assignments to the same column, of related values. -/
structure Assignment.Alike (R : Value → Value → Prop) (a a' : Assignment) : Prop where
  column : a.column = a'.column
  qualifier : a.qualifier = a'.qualifier
  value : R a.value a'.value

theorem Assignment.make_alike (column qualifier : String) {v v' : Value} (values : R v v') :
    Outcome.Alike (Assignment.Alike R) (make column qualifier v) (make column qualifier v') := by
  unfold make
  apply (Outcome.Alike.refl _).bind
  intro name name' names
  apply (Outcome.Alike.refl _).bind
  intro target target' targets
  subst names targets
  exact .ok ⟨rfl, rfl, values⟩

section Writes

variable {assignments assignments' : List Assignment}

/-- An insertion or update with alike assignments is refused on both sides or on none. -/
theorem isEmpty_alike (lists : List.Forall₂ (Assignment.Alike R) assignments assignments') :
    assignments.isEmpty = assignments'.isEmpty := by
  cases lists <;> rfl

/-- Insertions of related values are assembled alike, or refused for the same reason. -/
theorem Insert.assemble_alike (table : TableRef)
    (lists : List.Forall₂ (Assignment.Alike R) assignments assignments') :
    Outcome.Alike (Draft.Alike R) (assemble ⟨table, assignments⟩)
      (assemble ⟨table, assignments'⟩) := by
  have targets : Draft.Alike R (Draft.separated ", " Assignment.targetDraft assignments)
      (Draft.separated ", " Assignment.targetDraft assignments') := by
    apply Draft.separated_alike ", " lists
    intro a a' same
    unfold Assignment.targetDraft
    rw [same.column, same.qualifier]
    exact Draft.alike_of_values_eq_nil rfl
  have values : Draft.Alike R (Draft.separated ", " (fun a => Draft.param a.value) assignments)
      (Draft.separated ", " (fun a => Draft.param a.value) assignments') :=
    Draft.separated_alike ", " lists fun a a' same => Draft.alike_param same.value
  have opening : Draft.Alike R
      (Draft.text "INSERT INTO " ++ Draft.text table.name.text ++ Draft.text "( ") _ :=
    Draft.alike_of_values_eq_nil rfl
  have drafts : (draft ⟨table, assignments⟩).Alike R (draft ⟨table, assignments'⟩) :=
    (((opening.append targets).append (Draft.alike_text _)).append values).append
      (Draft.alike_text _)
  unfold assemble
  simp only
  rw [isEmpty_alike lists]
  by_cases absent : assignments'.isEmpty = true
  · rw [if_pos absent, if_pos absent]
    exact .error _
  · rw [if_neg absent, if_neg absent]
    exact .ok drafts.canonical

/-- Updates to related values are assembled alike, or refused for the same reason. -/
theorem Update.assemble_alike (table : TableRef)
    (lists : List.Forall₂ (Assignment.Alike R) assignments assignments') {filter filter' : Block}
    (filters : filter.Alike R filter') :
    Outcome.Alike (Draft.Alike R) (assemble ⟨table, assignments, filter⟩)
      (assemble ⟨table, assignments', filter'⟩) := by
  have written : Draft.Alike R (Draft.separated ", " Assignment.draft assignments)
      (Draft.separated ", " Assignment.draft assignments') := by
    apply Draft.separated_alike ", " lists
    intro a a' same
    unfold Assignment.draft
    rw [same.column, same.qualifier]
    have target : Draft.Alike R
        (Draft.text a'.qualifier.text ++ Draft.text ".`" ++ Draft.text a'.column.text ++
          Draft.text "` = ") _ := Draft.alike_of_values_eq_nil rfl
    exact target.append (Draft.alike_param same.value)
  have opening : Draft.Alike R
      (Draft.text "UPDATE " ++ Draft.text table.name.text ++ Draft.text " " ++
        Draft.text table.aliasName.text ++ Draft.text " SET ") _ := Draft.alike_of_values_eq_nil rfl
  have drafts : (draft ⟨table, assignments, filter⟩).Alike R
      (draft ⟨table, assignments', filter'⟩) :=
    (opening.append written).append (whereDraft_alike filters none)
  unfold assemble
  simp only
  rw [isEmpty_alike lists]
  by_cases absent : assignments'.isEmpty = true
  · rw [if_pos absent, if_pos absent]
    exact .error _
  · rw [if_neg absent, if_neg absent]
    exact .ok drafts.canonical

end Writes

/-- Deletions by alike filters are assembled alike. -/
theorem Delete.assemble_alike (table : TableRef) {filter filter' : Block}
    (filters : filter.Alike R filter') :
    (assemble ⟨table, filter⟩).Alike R (assemble ⟨table, filter'⟩) := by
  have opening : Draft.Alike R (Draft.text "DELETE FROM " ++ Draft.text table.name.text) _ :=
    Draft.alike_of_values_eq_nil rfl
  have drafts : (draft ⟨table, filter⟩).Alike R (draft ⟨table, filter'⟩) :=
    opening.append (whereDraft_alike filters _)
  exact drafts.canonical

end BoundSql
