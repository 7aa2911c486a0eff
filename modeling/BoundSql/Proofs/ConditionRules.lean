import BoundSql.Proofs.NameRules
import BoundSql.Proofs.Reachable

/-!
# The rules for conditions

Which parts make a condition, and why others are refused. There are four rules, and a refusal tells
the first one that is broken: the column is a name; the qualifier is nothing, or a name that is no
keyword; the operator takes as many values as there are; and a list has a value
(`Condition.Refused`). The rules are said of the texts and the operand, as the operators are written
down (`Comparison.Takes`), so that parts are accepted exactly if they keep all of them. An accepted
condition keeps its parts as they are, and binds the values of its operand.
-/

namespace BoundSql

open Outcome

/-- A text stands before a column: nothing, or a name that is no keyword. -/
def IsQualifier (text : String) : Prop := text = "" ∨ IsName text ∧ ¬ IsKeyword text

/-- What an operator is applied to: IN and NOT IN to a list with a value, IS NULL and IS NOT NULL to
nothing, and every other operator to one value. -/
def Comparison.Takes : Comparison → Operand → Prop
  | .among, operand | .notAmong, operand => ∃ first rest, operand = .list (first :: rest)
  | .isNull, operand | .isNotNull, operand => operand = .none
  | _, operand => ∃ v, operand = .single v

/-- The first rule for conditions that the parts break, and the refusal that tells it. -/
inductive Condition.Refused (qualifier column : String) (comparison : Comparison)
    (operand : Operand) : QueryError → Prop where
  /-- The column is no name. -/
  | column {fault : NameFault} (broken : BreaksColumnRule column fault) :
    Refused qualifier column comparison operand (.identifier fault)
  /-- The column is a name, and something stands before it that is none, or a keyword. -/
  | qualifier {fault : NameFault} (named : IsName column) (present : qualifier ≠ "")
      (broken : BreaksTableRule qualifier fault) :
    Refused qualifier column comparison operand (.identifier fault)
  /-- The names are legal, and the operator takes another number of values. -/
  | arity {name : ColumnName} (named : name.text = column) (qualified : IsQualifier qualifier)
      (other : operand.arity ≠ comparison.arity) :
    Refused qualifier column comparison operand (.arityMismatch name comparison operand.arity)
  /-- The names are legal, and the operator takes a list, which has no value. -/
  | emptyList {name : ColumnName} (named : name.text = column) (qualified : IsQualifier qualifier)
      (takesList : comparison.arity = .list) (vacant : operand = .list []) :
    Refused qualifier column comparison operand (.emptyList name comparison)

/-- An operator admits what it takes. -/
theorem Comparison.admits_iff_takes {comparison : Comparison} {operand : Operand} :
    comparison.Admits operand ↔ comparison.Takes operand := by
  cases operand with
  | none => cases comparison <;> simp [Admits, Takes, Operand.arity, arity]
  | single v => cases comparison <;> simp [Admits, Takes, Operand.arity, arity]
  | list values => cases values <;> cases comparison <;> simp [Admits, Takes, Operand.arity, arity]

/-- A text is read as a qualifier exactly if it may stand before a column. -/
theorem Condition.exists_readQualifier_iff {qualifier : String} :
    (∃ name, readQualifier qualifier = .ok name) ↔ IsQualifier qualifier := by
  by_cases vacant : qualifier = ""
  · simp [readQualifier, IsQualifier, vacant]
  · have read : (∃ name, readQualifier qualifier = .ok name) ↔ tableFault? qualifier = none := by
      rw [readQualifier, if_neg vacant]
      constructor
      · rintro ⟨_, made⟩
        obtain ⟨name, read, _⟩ := map_eq_ok.1 made
        rw [← TableName.text_of_read read]
        exact name.legal
      · intro legal
        exact ⟨_, map_eq_ok.2 ⟨_, TableName.read_text ⟨qualifier, legal⟩, rfl⟩⟩
    rw [read, tableFault?_eq_none_iff_isName, IsQualifier]
    simp [vacant]

/-- A text is refused as a qualifier for the rule it breaks. -/
theorem Condition.readQualifier_eq_error_iff {qualifier : String} {cause : QueryError} :
    readQualifier qualifier = .error cause ↔
      qualifier ≠ "" ∧ ∃ fault, BreaksTableRule qualifier fault ∧ cause = .identifier fault := by
  by_cases vacant : qualifier = ""
  · simp [readQualifier, vacant]
  · rw [readQualifier, if_neg vacant, map_eq_error, TableName.read_eq_error_iff,
      Option.map_eq_some_iff]
    simp only [tableFault?_eq_some_iff, vacant, ne_eq, not_false_eq_true, true_and]
    exact exists_congr fun fault => and_congr_right fun _ => eq_comm

/-- A name is read as that of a column exactly if it is a name. -/
theorem ColumnName.exists_read_iff {column : String} :
    (∃ name, read column = .ok name) ↔ IsName column := by
  rw [isName_iff]
  constructor
  · rintro ⟨name, made⟩
    rw [← text_of_read made]
    exact name.legal
  · intro legal
    exact ⟨_, read_text ⟨column, legal⟩⟩

namespace Condition

variable {qualifier column : String} {comparison : Comparison} {operand : Operand}

/-- With names that can be read, parts make a condition if the operator admits the operand, and are
refused for the operand otherwise. -/
theorem make_of_read {name : ColumnName} {owner : Option TableName}
    (named : ColumnName.read column = .ok name) (qualified : readQualifier qualifier = .ok owner) :
    make qualifier column comparison operand =
      if admitted : comparison.Admits operand then .ok ⟨owner, name, comparison, operand, admitted⟩
      else if operand.arity = comparison.arity then .error (.emptyList name comparison)
      else .error (.arityMismatch name comparison operand.arity) := by
  rw [make, named, qualified]
  rfl

/-- Parts make a condition exactly if they keep every rule. -/
theorem exists_make_iff :
    (∃ c, make qualifier column comparison operand = .ok c) ↔
      IsName column ∧ IsQualifier qualifier ∧ comparison.Takes operand := by
  rw [← ColumnName.exists_read_iff, ← exists_readQualifier_iff, ← Comparison.admits_iff_takes]
  constructor
  · rintro ⟨c, made⟩
    obtain ⟨name, named, later⟩ := bind_eq_ok.1 made
    obtain ⟨owner, qualified, _⟩ := bind_eq_ok.1 later
    rw [make_of_read named qualified] at made
    by_cases admitted : comparison.Admits operand
    · exact ⟨⟨name, named⟩, ⟨owner, qualified⟩, admitted⟩
    · rw [dif_neg admitted] at made
      split at made <;> cases made
  · rintro ⟨⟨name, named⟩, ⟨owner, qualified⟩, admitted⟩
    exact ⟨_, by rw [make_of_read named qualified, dif_pos admitted]⟩

/-- A qualifier that is read keeps its text. -/
theorem text_of_readQualifier {owner : Option TableName}
    (qualified : readQualifier qualifier = .ok owner) :
    owner.elim "" TableName.text = qualifier := by
  by_cases vacant : qualifier = ""
  · rw [readQualifier, if_pos vacant] at qualified
    cases qualified
    exact vacant.symm
  · rw [readQualifier, if_neg vacant] at qualified
    obtain ⟨name, read, rfl⟩ := map_eq_ok.1 qualified
    exact TableName.text_of_read read

/-- A condition that is made keeps its parts. -/
theorem parts_of_make {c : Condition} (made : make qualifier column comparison operand = .ok c) :
    c.qualifierText = qualifier ∧ c.column.text = column ∧ c.comparison = comparison ∧
      c.operand = operand := by
  obtain ⟨name, named, later⟩ := bind_eq_ok.1 made
  obtain ⟨owner, qualified, _⟩ := bind_eq_ok.1 later
  rw [make_of_read named qualified] at made
  by_cases admitted : comparison.Admits operand
  · rw [dif_pos admitted] at made
    cases made
    exact ⟨text_of_readQualifier qualified, ColumnName.text_of_read named, rfl, rfl⟩
  · rw [dif_neg admitted] at made
    split at made <;> cases made

/-- Of the operand, the number of values is looked at first. -/
theorem refused_operand {name : ColumnName} {cause : QueryError}
    (refused : ¬ comparison.Admits operand)
    (told : (if operand.arity = comparison.arity then Except.error (.emptyList name comparison)
      else .error (.arityMismatch name comparison operand.arity) : Except QueryError Condition) =
        .error cause)
    (named : name.text = column) (qualified : IsQualifier qualifier) :
    Refused qualifier column comparison operand cause := by
  by_cases same : operand.arity = comparison.arity
  · rw [if_pos same] at told
    cases told
    have vacant : operand = .list [] := not_not.1 fun present => refused ⟨same, present⟩
    rw [vacant] at same
    exact .emptyList named qualified same.symm vacant
  · rw [if_neg same] at told
    cases told
    exact .arity named qualified same

/-- Parts are refused for the first rule they break. -/
theorem make_eq_error_iff {cause : QueryError} :
    make qualifier column comparison operand = .error cause ↔
      Refused qualifier column comparison operand cause := by
  constructor
  · intro refused
    cases named : ColumnName.read column with
    | error unnamed =>
      rw [make, named] at refused
      cases refused
      obtain ⟨fault, broken, rfl⟩ := Option.map_eq_some_iff.1 (ColumnName.read_eq_error_iff.1 named)
      exact .column (columnFault?_eq_some_iff.1 broken)
    | ok name =>
      cases qualified : readQualifier qualifier with
      | error unqualified =>
        rw [make, named, qualified] at refused
        cases refused
        obtain ⟨present, fault, broken, rfl⟩ := readQualifier_eq_error_iff.1 qualified
        exact .qualifier (ColumnName.exists_read_iff.1 ⟨name, named⟩) present broken
      | ok owner =>
        rw [make_of_read named qualified] at refused
        by_cases admitted : comparison.Admits operand
        · rw [dif_pos admitted] at refused
          cases refused
        · rw [dif_neg admitted] at refused
          exact refused_operand admitted refused (ColumnName.text_of_read named)
            (exists_readQualifier_iff.1 ⟨owner, qualified⟩)
  · intro refused
    cases refused with
    | column broken =>
      have named : ColumnName.read column = .error (.identifier _) :=
        ColumnName.read_eq_error_iff.2
          (Option.map_eq_some_iff.2 ⟨_, columnFault?_eq_some_iff.2 broken, rfl⟩)
      rw [make, named]
      rfl
    | qualifier named present broken =>
      obtain ⟨name, named⟩ := ColumnName.exists_read_iff.2 named
      have unqualified := readQualifier_eq_error_iff.2 ⟨present, _, broken, rfl⟩
      rw [make, named, unqualified]
      rfl
    | @arity name named qualified other =>
      obtain ⟨owner, qualified⟩ := exists_readQualifier_iff.2 qualified
      have read : ColumnName.read column = .ok name := named ▸ ColumnName.read_text name
      have refused : ¬ comparison.Admits operand := fun admitted => other admitted.1
      rw [make_of_read read qualified, dif_neg refused, if_neg other]
    | @emptyList name named qualified takesList vacant =>
      obtain ⟨owner, qualified⟩ := exists_readQualifier_iff.2 qualified
      have read : ColumnName.read column = .ok name := named ▸ ColumnName.read_text name
      have refused : ¬ comparison.Admits operand := fun admitted => admitted.2 vacant
      have same : operand.arity = comparison.arity := by rw [vacant, takesList]; rfl
      rw [make_of_read read qualified, dif_neg refused, if_pos same]

/-- Parts make a condition exactly if the column is a name, the qualifier nothing or a name that is
no keyword, and the operand what the operator takes. Then the condition keeps all four as they are,
and binds exactly the values of the operand, in order. Otherwise the first rule that is broken is
told, in the order of column, qualifier, number of values and emptiness of the list. -/
theorem make_exact (qualifier column : String) (comparison : Comparison) (operand : Operand) :
    ((∃ c, make qualifier column comparison operand = .ok c) ↔
      IsName column ∧ IsQualifier qualifier ∧ comparison.Takes operand) ∧
    (∀ c, make qualifier column comparison operand = .ok c →
      c.qualifierText = qualifier ∧ c.column.text = column ∧ c.comparison = comparison ∧
        c.operand = operand ∧
        ∀ unqualified style, ((c.draft unqualified).bake style).params = operand.values) ∧
    (∀ cause, make qualifier column comparison operand = .error cause ↔
      Refused qualifier column comparison operand cause) := by
  refine ⟨exists_make_iff, fun c made => ?_, fun cause => make_eq_error_iff⟩
  obtain ⟨owner, name, operator, values⟩ := parts_of_make made
  refine ⟨owner, name, operator, values, fun unqualified style => ?_⟩
  rw [Draft.params_bake, values_draft, values]

/-- A column of sixty-four characters makes a condition; of two broken rules the first is told; and
a keyword is told in whatever case it is written. -/
theorem make_exact_columns :
    (∃ c, make "u" (String.ofList (List.replicate 64 'x')) .among (.list [.integer 1, .null]) =
      .ok c ∧ c.qualifierText = "u" ∧ c.operand = .list [.integer 1, .null]) ∧
    make "Order" "1st" .isNull (.single .null) = .error (.identifier (.startCharacter "1st")) ∧
    make "Order" "id" .isNull (.single .null) = .error (.identifier (.reserved "Order")) := by
  obtain ⟨accepted, kept, _⟩ := make_exact "u" (String.ofList (List.replicate 64 'x')) .among
    (.list [.integer 1, .null])
  obtain ⟨_, _, column⟩ := make_exact "Order" "1st" .isNull (.single .null)
  obtain ⟨_, _, qualifier⟩ := make_exact "Order" "id" .isNull (.single .null)
  have long : IsName (String.ofList (List.replicate 64 'x')) := isName_iff.2 (by decide +kernel)
  have owner : IsName "u" ∧ ¬ IsKeyword "u" := tableFault?_eq_none_iff_isName.1 (by decide +kernel)
  obtain ⟨c, made⟩ := accepted.2 ⟨long, .inr owner, ⟨_, _, rfl⟩⟩
  have digit : BreaksColumnRule "1st" (.startCharacter "1st") :=
    .startCharacter (by decide) rfl (.inr (by decide))
  have keyword : IsKeyword "Order" := ⟨"ORDER", by decide, by decide⟩
  refine ⟨⟨c, made, (kept c made).1, (kept c made).2.2.2.1⟩, (column _).2 (.column digit), ?_⟩
  exact (qualifier _).2 (.qualifier (isName_iff.2 (by decide +kernel)) (by decide)
    (.reserved (isName_iff.2 (by decide +kernel)) keyword))

end Condition

end BoundSql
