import BoundSql.Proofs.Answers

/-!
# Raw texts

Raw texts are the one thing that a statement takes over as it is given. A block has exactly the
raw texts that its plan supplies, in order (`BlockPlan.rawTexts_build`). The filters that a program
keeps get no raw text from a step, but its joins may have some; so all raw texts of its statements
have any property that those of its joins have (`Statement.Built.rawTexts`).
-/

namespace BoundSql

open Outcome

mutual

/-- The raw texts a plan of a part supplies, from left to right. -/
def PartPlan.rawTexts : PartPlan → List String
  | .condition .. => []
  | .group block => block.rawTexts
  | .text text => [text]

/-- The raw texts a plan of a block supplies. -/
def BlockPlan.rawTexts : BlockPlan → List String
  | .empty => []
  | .push block _ part => block.rawTexts ++ part.rawTexts
  | .ofParts row => row.rawTexts
  | .addCondition block .. => block.rawTexts
  | .addGroup block _ group => block.rawTexts ++ group.rawTexts
  | .addText block text => block.rawTexts ++ [text]

/-- The raw texts a plan of a row supplies. -/
def RowPlan.rawTexts : RowPlan → List String
  | .nil => []
  | .cons _ part rest => part.rawTexts ++ rest.rawTexts

end

namespace Block

/-- The raw texts of an appended part follow those of the block. -/
@[simp] theorem rawTexts_append (link : Option Combinator) (part : Part) (block : Block) :
    (block.append link part).rawTexts = block.rawTexts ++ part.rawTexts := by
  cases block with
  | empty => simp [append, Block.rawTexts]
  | entry link' part' rest => simp [append, Block.rawTexts, rawTexts_append link part rest]

/-- A nested block adds its raw texts, also if it has no parts. -/
@[simp] theorem rawTexts_addGroup (block : Block) (requested : Option Combinator) (group : Block) :
    (block.addGroup requested group).rawTexts = block.rawTexts ++ group.rawTexts := by
  by_cases vacant : group = .empty
  · simp [addGroup, vacant, isEmpty, Block.rawTexts]
  · simp [addGroup_present requested vacant, Part.rawTexts]

/-- A pushed part adds its raw texts, also if it is left out. -/
theorem rawTexts_push {block result : Block} {link : Option Combinator} {part : Part}
    (accepted : block.push link part = .ok result) :
    result.rawTexts = block.rawTexts ++ part.rawTexts := by
  have kept : (if vacuous part then block else block.append link part).rawTexts =
      block.rawTexts ++ part.rawTexts := by
    split
    · next vacant =>
      cases part with
      | condition c => cases vacant
      | text text => cases vacant
      | group group => simp [isEmpty_iff.1 vacant, Part.rawTexts, Block.rawTexts]
    · simp
  unfold push at accepted
  split at accepted
  · cases accepted
  · cases accepted
  · cases accepted
    exact kept

/-- Parts that are pushed one after the other add their raw texts. -/
theorem rawTexts_foldlM_push {entries : List (Option Combinator × Part)} {block result : Block}
    (accepted :
      entries.foldlM (fun block (link, part) => block.push link part) block = .ok result) :
    result.rawTexts = block.rawTexts ++ entries.flatMap fun entry => entry.2.rawTexts := by
  induction entries generalizing block with
  | nil =>
    cases accepted
    simp
  | cons entry rest ih =>
    rw [List.foldlM_cons] at accepted
    obtain ⟨next, pushed, others⟩ := bind_eq_ok.1 accepted
    rw [ih others, rawTexts_push pushed, List.flatMap_cons, List.append_assoc]

end Block

mutual

/-- A part has the raw texts its plan supplies. -/
theorem PartPlan.rawTexts_build : {plan : PartPlan} → {part : Part} → plan.build = .ok part →
    part.rawTexts = plan.rawTexts
  | .condition .., part, built => by
    obtain ⟨condition, _, rfl⟩ := map_eq_ok.1 built
    rfl
  | .group _, part, built => by
    obtain ⟨inner, made, rfl⟩ := map_eq_ok.1 built
    exact BlockPlan.rawTexts_build made
  | .text _, part, built => by
    cases built
    rfl

/-- A block has the raw texts its plan supplies. -/
theorem BlockPlan.rawTexts_build : {plan : BlockPlan} → {block : Block} →
    plan.build = .ok block → block.rawTexts = plan.rawTexts
  | .empty, block, built => by
    cases built
    rfl
  | .push _ _ _, block, built => by
    obtain ⟨before, made, built⟩ := bind_eq_ok.1 built
    obtain ⟨part, inner, pushed⟩ := bind_eq_ok.1 built
    rw [Block.rawTexts_push pushed, BlockPlan.rawTexts_build made, PartPlan.rawTexts_build inner]
    rfl
  | .ofParts _, block, built => by
    obtain ⟨entries, made, pushed⟩ := bind_eq_ok.1 built
    rw [Block.rawTexts_foldlM_push pushed, RowPlan.rawTexts_build made]
    rfl
  | .addCondition _ _ _ _ _ _, block, built => by
    obtain ⟨before, made, built⟩ := bind_eq_ok.1 built
    obtain ⟨condition, _, rfl⟩ := map_eq_ok.1 built
    simp [Block.addCondition, Part.rawTexts, BlockPlan.rawTexts_build made, BlockPlan.rawTexts]
  | .addGroup _ _ _, block, built => by
    obtain ⟨before, made, built⟩ := bind_eq_ok.1 built
    obtain ⟨group, inner, rfl⟩ := map_eq_ok.1 built
    rw [Block.rawTexts_addGroup, BlockPlan.rawTexts_build made, BlockPlan.rawTexts_build inner]
    rfl
  | .addText _ _, block, built => by
    obtain ⟨before, made, rfl⟩ := map_eq_ok.1 built
    simp [Block.addText, Part.rawTexts, BlockPlan.rawTexts_build made, BlockPlan.rawTexts]

/-- The parts of a row have the raw texts their plans supply. -/
theorem RowPlan.rawTexts_build : {plan : RowPlan} → {entries : List (Option Combinator × Part)} →
    plan.build = .ok entries →
      (entries.flatMap fun entry => entry.2.rawTexts) = plan.rawTexts
  | .nil, entries, built => by
    cases built
    rfl
  | .cons _ _ _, entries, built => by
    obtain ⟨part, made, built⟩ := bind_eq_ok.1 built
    obtain ⟨others, later, rfl⟩ := map_eq_ok.1 built
    rw [List.flatMap_cons, PartPlan.rawTexts_build made, RowPlan.rawTexts_build later]
    rfl

end

/-- The raw texts a request supplies: those of the condition of a join. -/
def Request.rawTexts {E : Type} : Request E → List String
  | .join _ _ _ plan _ _ => plan.rawTexts
  | _ => []

variable {required : String → Prop}

/-- All raw texts that are kept have a property. No step of a filter adds any. -/
def Upkeep.texts (required : String → Prop) : Upkeep where
  filter filter := ∀ text ∈ filter.block.rawTexts, required text
  join join := ∀ text ∈ join.condition.rawTexts, required text
  empty _ := fun _ member => absurd member List.not_mem_nil
  step {before next change} had inner accepted := by
    cases Filter.step_eq_ok_iff.1 accepted with
    | condition made => simpa [Filter.extend, Part.rawTexts] using had
    | combinator present free => exact had
    | skip vacant => exact had
    | @group other present =>
      simp only [Filter.extend, Block.rawTexts_append, Part.rawTexts, List.mem_append]
      exact fun text member => member.elim (had text) (inner other rfl text)
    | clear => exact fun _ member => absurd member List.not_mem_nil

/-- A request brings along the raw texts it supplies. -/
theorem Request.brings_texts {E : Type} {request : Request E}
    (all : ∀ text ∈ request.rawTexts, required text) : request.Brings (.texts required) := by
  cases request with
  | join target table aliasName plan kind cardinality =>
    intro block join built made
    obtain ⟨_, _, made⟩ := bind_eq_ok.1 made
    obtain ⟨_, _, made⟩ := bind_eq_ok.1 made
    cases made
    intro text member
    rw [BlockPlan.rawTexts_build built] at member
    exact all text member
  | _ => trivial

/-- The raw texts of a statement are those of its parts. -/
theorem Statement.Built.rawTexts {s : Statement} (built : s.Built (.texts required)) :
    ∀ text ∈ s.rawTexts, required text := by
  cases s with
  | select s =>
    obtain ⟨⟨filter, all, same⟩, joins⟩ := built
    intro text member
    simp only [Statement.rawTexts, same, List.mem_append, List.mem_flatMap] at member
    rcases member with inside | ⟨join, among, inside⟩
    · exact all text inside
    · exact joins join among text inside
  | insert s => exact fun _ member => absurd member List.not_mem_nil
  | update s =>
    obtain ⟨filter, all, same⟩ := built
    intro text member
    rw [Statement.rawTexts, same] at member
    exact all text member
  | delete s =>
    obtain ⟨filter, all, same⟩ := built
    intro text member
    rw [Statement.rawTexts, same] at member
    exact all text member

end BoundSql
