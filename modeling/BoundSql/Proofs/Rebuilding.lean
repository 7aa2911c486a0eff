import BoundSql.Proofs.CheckedParts
import BoundSql.Proofs.Refusals

/-!
# Blocks and rows of parts

A block lists its parts, and apart from them the combinators that are there, without saying which
part each belongs to. Given in order to the parts behind the first one, they are back in their places
as soon as every part but the first carries one (`Block.paired_eq_entries`). This is so of every
block that can be built, at every depth, and of every block that a program changes in place, whether
changes were refused meanwhile or not (`Desk.reachable_run`). So such a block is what its own parts
and combinators are checked to; and a row that is checked is listed again by the block it makes, as
long as no part of it is a block without parts, which would be left out (`Block.ofParts_inverse`).
-/

namespace BoundSql

open Outcome

namespace Block

/-- The parts of a block, each with what links it: nothing the first one, and the combinators of the
block, in order, the others. -/
def paired (block : Block) : PartRow :=
  (none :: block.combinators.map some).zip block.parts

/-- Where all entries carry links, their combinators are these links. -/
theorem map_some_links {entries : PartRow} (linked : ∀ entry ∈ entries, entry.1.isSome) :
    (entries.filterMap Prod.fst).map some = entries.map Prod.fst := by
  rw [List.map_filterMap_some_eq_filter_map_isSome]
  exact List.filter_eq_self.2 (List.forall_mem_map.2 linked)

/-- Where every entry but the first carries a link, the listed combinators are the links of the
others. -/
theorem map_some_combinators {block : Block} (linked : LinkedByPosition block.entries) :
    block.combinators.map some = (block.entries.map Prod.fst).tail := by
  rw [combinators]
  cases shape : block.entries with
  | nil => rfl
  | cons first others =>
    rw [shape] at linked
    obtain ⟨none, linked⟩ := linked
    rw [List.filterMap_cons_none none, map_some_links linked, List.map_cons, List.tail_cons]

/-- Where every entry but the first carries a link, parts and combinators are paired as they
stand. -/
theorem paired_eq_entries {block : Block} (linked : LinkedByPosition block.entries) :
    block.paired = block.entries := by
  rw [paired, map_some_combinators linked, parts]
  cases shape : block.entries with
  | nil => rfl
  | cons first others =>
    rw [shape] at linked
    rw [List.map_cons, List.tail_cons, ← linked.1, ← List.map_cons]
    exact (List.zip_of_prod rfl rfl).symm

/-- An entry is retained exactly if it is no block without parts. -/
theorem retained_iff {entry : Option Combinator × Part} :
    retained entry = true ↔ entry.2 ≠ .group .empty := by
  obtain ⟨link, part⟩ := entry
  cases part with
  | condition c => simp [retained, vacuous]
  | text text => simp [retained, vacuous]
  | group group => cases group <;> simp [retained, vacuous, isEmpty]

/-- The entries of a well linked row: the first one carries a link unless the row begins with it,
the others do, and none of them is left out. -/
theorem WellLinked.entries_linked : {block : Block} → {leading : Bool} → block.WellLinked leading →
    LinkedBehindRetained (!leading) block.entries ∧
      ∀ entry ∈ block.entries, retained entry = true
  | empty, _, _ => ⟨linkedBehindRetained_nil, fun _ member => absurd member List.not_mem_nil⟩
  | entry link part rest, leading, ⟨first, inner, others⟩ => by
    have present : retained (link, part) = true := by
      refine retained_iff.2 ?_
      rintro rfl
      exact inner.1 rfl
    obtain ⟨linked, kept⟩ := others.entries_linked
    refine ⟨linkedBehindRetained_cons.2 ⟨?_, ?_⟩, List.forall_mem_cons.2 ⟨present, kept⟩⟩
    · rw [← first]
      cases link <;> rfl
    · rwa [present, Bool.or_true]

/-- A row of retained entries that is linked behind them is linked by position. -/
theorem linkedByPosition_of_retained {row : PartRow} (behind : LinkedBehindRetained false row)
    (kept : ∀ entry ∈ row, retained entry = true) : LinkedByPosition row :=
  (linkedBehindRetained_iff_byPosition fun entry first =>
    kept entry (List.mem_of_mem_head? first)).1 behind

/-- A well linked block is what its paired parts are checked to. -/
theorem WellLinked.ofParts_paired {block : Block} (linked : block.WellLinked true) :
    ofParts block.paired = .ok block := by
  obtain ⟨behind, kept⟩ := linked.entries_linked
  rw [paired_eq_entries (linkedByPosition_of_retained behind kept)]
  exact foldlM_push_eq_ok_iff.2 ⟨behind, (List.filter_eq_self.2 kept).symm⟩

/-- A well linked block, and every block nested in it, is what its paired parts are checked to. -/
theorem WellLinked.ofParts_paired_nested {block : Block} (linked : block.WellLinked true) :
    ∀ inner ∈ block :: block.nested, ofParts inner.paired = .ok inner :=
  List.forall_mem_cons.2
    ⟨linked.ofParts_paired, fun inner member => (linked.nested inner member).2.ofParts_paired⟩

/-- A row without blocks that have no parts is what the block it makes consists of, and is linked by
position. -/
theorem entries_of_ofParts {row : PartRow} {block : Block}
    (present : ∀ entry ∈ row, entry.2 ≠ .group .empty) (made : ofParts row = .ok block) :
    block.entries = row ∧ LinkedByPosition row := by
  have kept : ∀ entry ∈ row, retained entry = true := fun entry member =>
    retained_iff.2 (present entry member)
  obtain ⟨behind, entries⟩ := foldlM_push_eq_ok_iff.1 made
  rw [List.filter_eq_self.2 kept] at entries
  exact ⟨entries, linkedByPosition_of_retained behind kept⟩

end Block

/-- A change in place keeps a block reachable. -/
theorem Block.Reachable.stepInPlace {block next : Block} (before : block.Reachable)
    {step : BlockStep} (changed : Block.stepInPlace step block = .ok () next) :
    next.Reachable := by
  cases step with
  | push link part =>
    obtain ⟨plan, built⟩ := before
    obtain ⟨inner, made, pushed⟩ := Procedure.check_bind_eq_ok.1 changed
    rw [pushInPlace_eq, Procedure.atOnce_eq_ok] at pushed
    exact ⟨.push plan link part, bind_eq_ok.2 ⟨block, built, bind_eq_ok.2 ⟨inner, made, pushed⟩⟩⟩
  | addCondition requested qualifier column comparison operand =>
    obtain ⟨c, made, added⟩ := Procedure.check_bind_eq_ok.1 changed
    cases added
    exact before.addCondition requested c
  | addGroup requested group =>
    obtain ⟨inner, made, added⟩ := Procedure.check_bind_eq_ok.1 changed
    cases added
    exact before.addGroup ⟨group, made⟩ requested
  | addText text =>
    cases changed
    exact before.addText text
  | clear =>
    cases changed
    exact .empty

namespace Desk

variable {E : Type} {tables : List (TableDefinition E)} {d : Desk E}

/-- A write changes no block. -/
theorem blocks_write (target : Place) (number : Nat)
    (procedure : EntityGateway E → Procedure E Query) :
    (d.write target number procedure).1.blocks = d.blocks := by
  unfold write
  split
  · split <;> rfl
  · rfl

/-- A procedure that is not refused leaves the desk as it says. -/
theorem eq_ok_of_carryOut {procedure : Procedure (Desk E) Unit} {query? : Option Query}
    (accepted : (d.carryOut procedure).2.result = .ok query?) :
    procedure d = .ok () (d.carryOut procedure).1 := by
  unfold carryOut at accepted ⊢
  cases shape : procedure d with
  | ok result next => rfl
  | error cause next => simp [shape] at accepted

/-- An accepted request keeps the blocks of a desk reachable. -/
theorem reachable_of_accepted (before : ∀ block ∈ d.blocks, block.Reachable)
    {request : DeskRequest E} {query? : Option Query}
    (accepted : (d.step tables request).2.result = .ok query?) :
    ∀ block ∈ (d.step tables request).1.blocks, block.Reachable := by
  cases request with
  | keep request => exact before
  | newBlock plan =>
    have done := eq_ok_of_carryOut accepted
    obtain ⟨made, built, added⟩ := Procedure.check_bind_eq_ok.1 done
    have grown : { d with blocks := d.blocks ++ [made] } = (d.step tables (.newBlock plan)).1 :=
      (EStateM.Result.ok.inj added).2
    rw [← grown]
    exact List.forall_mem_append.2 ⟨before, List.forall_mem_singleton.2 ⟨plan, built⟩⟩
  | changeBlock number step =>
    have done := eq_ok_of_carryOut accepted
    obtain ⟨blocks, changed, placed⟩ := Procedure.within_eq_ok done
    have left : { d with blocks } = (d.step tables (.changeBlock number step)).1 := placed
    rw [← left]
    rcases Procedure.onItem_eq_ok changed with rfl | ⟨block, next, member, made, rfl⟩
    · exact before
    · intro other inside
      rcases List.mem_or_eq_of_mem_set inside with old | rfl
      · exact before other old
      · exact (before block member).stepInPlace made
  | newEntity entity => exact before
  | insert target now number =>
    rw [step, blocks_write]
    exact before
  | update target now number =>
    rw [step, blocks_write]
    exact before

/-- The blocks of a desk stay reachable through a run, whether requests are refused in it or not. -/
theorem reachable_run (before : ∀ block ∈ d.blocks, block.Reachable)
    (requests : List (DeskRequest E)) :
    ∀ block ∈ (d.run tables requests).1.blocks, block.Reachable := by
  induction requests generalizing d with
  | nil => exact before
  | cons request rest ih =>
    rw [run_cons]
    refine ih ?_
    cases answered : (d.step tables request).2.result with
    | error cause =>
      rw [eq_of_refused answered]
      exact before
    | ok query? => exact reachable_of_accepted before answered

end Desk

/-- Blocks are rebuilt from what they list, and rows are listed again by the blocks they make. The
parts of a block that can be built, with nothing to link the first one and the combinators of the
block, in order, for the others, are checked to the same block; so it is with every block nested in
it, and with the blocks that a program changes in place. A row that is checked and has no block
without parts is listed by the block it makes: its parts, and its links but for the first one, which
is none. -/
theorem Block.ofParts_inverse :
    (∀ block : Block, block.Reachable →
      ∀ inner ∈ block :: block.nested, ofParts inner.paired = .ok inner) ∧
    (∀ (E : Type) (tables : List (TableDefinition E)) (requests : List (DeskRequest E)),
      ∀ block ∈ (Desk.run tables {} requests).1.blocks,
        ∀ inner ∈ block :: block.nested, ofParts inner.paired = .ok inner) ∧
    (∀ (row : PartRow) (block : Block), (∀ entry ∈ row, entry.2 ≠ .group .empty) →
      ofParts row = .ok block →
        block.paired = row ∧ block.parts = row.map Prod.snd ∧
        block.combinators.map some = (row.map Prod.fst).tail ∧
        ∀ first ∈ row.head?, first.1 = none) := by
  refine ⟨fun block reachable => reachable.wellLinked.ofParts_paired_nested, ?_, ?_⟩
  · intro E tables requests block member
    have reachable := Desk.reachable_run (by simp) requests block member
    exact reachable.wellLinked.ofParts_paired_nested
  · intro row block present made
    obtain ⟨same, linked⟩ := entries_of_ofParts present made
    subst same
    refine ⟨paired_eq_entries linked, rfl, map_some_combinators linked, ?_⟩
    cases shape : block.entries with
    | nil => simp
    | cons first others =>
      rw [shape] at linked
      simpa using linked.1

namespace Sample

/-- A block is made of checked parts, one of them nested. A part without a link is refused, and a
text is added. -/
def drafted : List (DeskRequest Unit) :=
  [.newBlock (.ofParts (.cons none (.text "a = 1")
    (.cons (some .or) (.group (.addText (.addText .empty "b = 2") "c = 3")) .nil))),
   .changeBlock 0 (.push none (.text "d = 4")),
   .changeBlock 0 (.addText "e = 5")]

/-- The block they come to. -/
def clauses : Block :=
  .entry none (.text "a = 1") <|
  .entry (some .or) (.group (.entry none (.text "b = 2") (.entry (some .and) (.text "c = 3") .empty))) <|
  .entry (some .and) (.text "e = 5") .empty

end Sample

/-- The block is rebuilt from its three parts and two combinators, and so is the nested one; the row
of its parts is listed again. -/
theorem Block.ofParts_inverse_drafted :
    Sample.nested.Reachable ∧ ofParts Sample.nested.paired = .ok Sample.nested ∧
    (Desk.run [] {} Sample.drafted).1.blocks = [Sample.clauses] ∧
    (∀ inner ∈ Sample.clauses :: Sample.clauses.nested, ofParts inner.paired = .ok inner) ∧
    (∀ entry ∈ Sample.clauses.entries, entry.2 ≠ .group .empty) ∧
    ofParts Sample.clauses.entries = .ok Sample.clauses ∧
    Sample.clauses.combinators = [.or, .and] ∧
    Sample.clauses.paired = Sample.clauses.entries := by
  obtain ⟨built, changed, checked⟩ := ofParts_inverse
  have blocks : (Desk.run [] {} Sample.drafted).1.blocks = [Sample.clauses] := rfl
  have present : ∀ entry ∈ Sample.clauses.entries, entry.2 ≠ .group .empty := by decide
  have made : ofParts Sample.clauses.entries = .ok Sample.clauses := rfl
  refine ⟨Sample.reachable_nested, built _ Sample.reachable_nested _ List.mem_cons_self, blocks, ?_,
    present, made, rfl, (checked _ _ present made).1⟩
  exact changed Unit [] Sample.drafted Sample.clauses (by rw [blocks]; exact List.mem_cons_self)

end BoundSql
