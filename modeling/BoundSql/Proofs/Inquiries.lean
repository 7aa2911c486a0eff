import BoundSql.Proofs.Identity

/-!
# Selections and their columns

What can be asked for from a gateway or a composite: its rows, or the row with an identity. Either
way the answer is put together from the columns alone (`EntityGateway.exists_filter`,
`CompositeView.exists_filter`): no other part of the selection can be refused, since filters are
combined, and conditions on an identity made, without fail.
-/

namespace BoundSql

/-- What is asked for, without the excluded columns. -/
inductive Inquiry where
  /-- The rows the filters admit. -/
  | all (excluded : List String)
  /-- The row with an identity. -/
  | one (id : Value) (excluded : List String)

/-- The columns that are not asked for. -/
def Inquiry.excluded : Inquiry → List String
  | all excluded => excluded
  | one _ excluded => excluded

variable {E : Type}

/-- The answer of a gateway. -/
def EntityGateway.answer (g : EntityGateway E) : Inquiry → Reply Query
  | .all excluded => g.get excluded
  | .one id excluded => g.getById id excluded

/-- The answer of a composite that is viewed. -/
def CompositeView.answer (v : CompositeView) : Inquiry → Reply Query
  | .all excluded => v.get excluded
  | .one id excluded => v.getById id excluded

/-- The answer of a composite of a driving table and members. -/
def CompositeGateway.answer (c : CompositeGateway E) : Inquiry → Reply Query
  | .all excluded => c.get excluded
  | .one id excluded => c.getById id excluded

/-- A gateway selects its columns with its joins and its ordering, by some filter, whatever its
settings are. -/
theorem EntityGateway.exists_filter (g : EntityGateway E) (ask : Inquiry) :
    ∃ filter, ∀ settings, { g with settings }.answer ask =
      Reply.ofSelect settings ((g.projection ask.excluded).map fun columns =>
        { table := g.table, columns, joins := g.joins, filter, orderings := [g.ordering] }) := by
  cases ask with
  | all excluded =>
    refine ⟨g.filter.block, fun settings => ?_⟩
    change Reply.ofSelect settings (g.projection excluded >>= _) = _
    rw [Inquiry.excluded]
    cases g.projection excluded <;> rfl
  | one id excluded =>
    refine ⟨(Filter.ofIdentity g.table.aliasName id).block, fun settings => ?_⟩
    change Reply.ofSelect settings (g.projection excluded >>= _) = _
    rw [Inquiry.excluded, Filter.step_ofIdentity]
    cases g.projection excluded <;> rfl

/-- The filters of a composite that is viewed are combined without fail. -/
theorem CompositeView.exists_combinedFilter (v : CompositeView) :
    ∃ combined, v.combinedFilter = .ok combined := by
  have present : ∀ filter ∈ ((if v.combination.automatic then v.others else []) ++
      [v.filter]).filter (!·.isEmpty), filter.block ≠ .empty := by
    intro filter member vacant
    have filled := (List.mem_filter.1 member).2
    rw [Filter.isEmpty_iff.2 vacant] at filled
    cases filled
  obtain ⟨combined, made, _⟩ := CompositeGateway.combine_combined v.table.aliasName
    v.combination.combinator present
  exact ⟨combined, made⟩

/-- A composite that is viewed selects its columns by some filter, too. -/
theorem CompositeView.exists_filter (v : CompositeView) (ask : Inquiry) :
    ∃ filter, ∀ settings, { v with settings }.answer ask =
      Reply.ofSelect settings ((v.projection ask.excluded).map (v.select · filter)) := by
  cases ask with
  | all excluded =>
    obtain ⟨combined, made⟩ := v.exists_combinedFilter
    refine ⟨combined, fun settings => ?_⟩
    change Reply.ofSelect settings (v.projection excluded >>= fun columns =>
      v.combinedFilter >>= fun filter => pure (v.select columns filter)) = _
    rw [Inquiry.excluded, made]
    cases v.projection excluded <;> rfl
  | one id excluded =>
    refine ⟨.ofIdentity v.table.aliasName id, fun settings => ?_⟩
    change Reply.ofSelect settings (v.projection excluded >>= _) = _
    rw [Inquiry.excluded, Filter.step_ofIdentity]
    cases v.projection excluded <;> rfl

/-- A composite answers as its view does, with other settings of its base as with its own. -/
theorem CompositeGateway.answer_eq_view (c : CompositeGateway E) (ask : Inquiry)
    (settings : Settings) :
    { c with base := { c.base with settings } }.answer ask =
      { kind.view c with settings }.answer ask := by
  have columns : projection { c with base := { c.base with settings } } = c.projection := by
    funext excluded
    rw [projection_eq_ofTables, projection_eq_ofTables]
    rfl
  have shown : kind.view { c with base := { c.base with settings } } =
      { kind.view c with settings } := by
    change CompositeView.mk _ _ _ _ _ _ _ _ _ = _
    rw [columns]
    rfl
  rw [← shown]
  cases ask <;> rfl

end BoundSql
