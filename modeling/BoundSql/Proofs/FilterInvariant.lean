import BoundSql.Proofs.Runs

/-!
# The invariant of filters

A program keeps filters: it makes new ones, copies them, nests one into another or into a
copy of itself, and changes and clears them; a request that is refused changes nothing.
Whatever it does, every filter it keeps is `Sound` (`FilterRequest.sound_run`): at every
depth the parts of a block are linked one to the next, no nested block is without parts,
and every condition is well formed; the conditions of the filter itself are qualified with
its alias; and a combinator is kept only behind a part.

The clauses on the tree follow from the links alone (`Block.WellLinked`), since names and
operands carry their own proofs. The alias and the kept combinator go along every step.
-/

namespace BoundSql

open Outcome

mutual

/-- The blocks nested in a part, at every depth. -/
def Part.nested : Part → List Block
  | .condition _ => []
  | .group block => block :: block.nested
  | .text _ => []

/-- The blocks nested in a block, at every depth. -/
def Block.nested : Block → List Block
  | .empty => []
  | .entry _ part rest => part.nested ++ rest.nested

end

mutual

/-- The conditions in a part, at every depth, from left to right. -/
def Part.conditions : Part → List Condition
  | .condition condition => [condition]
  | .group block => block.conditions
  | .text _ => []

/-- The conditions in a block, at every depth, from left to right. -/
def Block.conditions : Block → List Condition
  | .empty => []
  | .entry _ part rest => part.conditions ++ rest.conditions

end

/-- The first part of a block has no link, and every later part has one. -/
def Block.Linked (block : Block) : Prop :=
  ∀ (place : Nat) (link : Option Combinator) (part : Part),
    block.entries[place]? = some (link, part) → (link = none ↔ place = 0)

/-- An operand is what an operator of the given arity takes: nothing, one value, or at
least one value in a list. -/
def Operand.Fits (operand : Operand) : Arity → Prop
  | .none => operand = .none
  | .single => ∃ v, operand = .single v
  | .list => ∃ first rest, operand = .list (first :: rest)

/-- A condition on a legal column, bare or qualified with a legal name that is not
reserved, with an operand its operator takes. -/
structure Condition.WellFormed (c : Condition) : Prop where
  /-- The column is a word that is not too long. -/
  column : IsWord c.column.text ∧ c.column.text.utf8ByteSize ≤ maximumNameBytes
  /-- So is a qualifier, and it is not reserved. -/
  qualifier : ∀ name, c.qualifier = some name →
    IsWord name.text ∧ name.text.utf8ByteSize ≤ maximumNameBytes ∧ isReserved name.text = false
  /-- The operand is one the operator takes. -/
  operand : c.operand.Fits c.comparison.arity

/-- What holds of every filter a program keeps. -/
structure Filter.Sound (filter : Filter) : Prop where
  /-- At every depth the first part has no link, and every later part has one. -/
  linked : ∀ block ∈ filter.block :: filter.block.nested, block.Linked
  /-- At every depth there is one part more than there are combinators. -/
  counted : ∀ block ∈ filter.block :: filter.block.nested, block ≠ .empty →
    block.length = block.combinators.length + 1
  /-- No nested block is without parts. -/
  present : ∀ block ∈ filter.block.nested, block ≠ .empty
  /-- Every condition at any depth is well formed. -/
  conditions : ∀ c ∈ filter.block.conditions, c.WellFormed
  /-- The conditions of the filter itself are qualified with its alias. -/
  own : ∀ c, .condition c ∈ filter.block.parts → c.qualifier = some filter.aliasName
  /-- A combinator is kept only behind a part. -/
  pending : filter.pending ≠ none → filter.block ≠ .empty

/-- An operand that is admitted fits. -/
theorem Comparison.Admits.fits {comparison : Comparison} {operand : Operand}
    (admitted : comparison.Admits operand) : operand.Fits comparison.arity := by
  obtain ⟨same, present⟩ := admitted
  rw [← same]
  cases operand with
  | none => rfl
  | single v => exact ⟨v, rfl⟩
  | list values =>
    cases values with
    | nil => exact absurd rfl present
    | cons first rest => exact ⟨first, rest, rfl⟩

/-- Names and operands carry what makes a condition well formed. -/
theorem Condition.wellFormed (c : Condition) : c.WellFormed where
  column := columnFault?_eq_none_iff.1 c.column.legal
  qualifier name _ := by
    obtain ⟨legal, free⟩ := tableFault?_eq_none_iff.1 name.legal
    obtain ⟨word, short⟩ := columnFault?_eq_none_iff.1 legal
    exact ⟨word, short, free⟩
  operand := c.admitted.fits

namespace Block

/-- In a well linked row only the part at its beginning has no link. -/
theorem WellLinked.link_eq_none_iff {block : Block} {leading : Bool}
    (linked : block.WellLinked leading) {place : Nat} {link : Option Combinator} {part : Part}
    (found : block.entries[place]? = some (link, part)) :
    link = none ↔ leading = true ∧ place = 0 := by
  cases block with
  | empty => simp [entries] at found
  | entry link' part' rest =>
    obtain ⟨first, _, others⟩ := linked
    cases place with
    | zero =>
      simp only [entries, List.getElem?_cons_zero, Option.some.injEq, Prod.mk.injEq] at found
      rw [← found.1, ← first]
      simp
    | succ place =>
      have later := WellLinked.link_eq_none_iff others (by simpa [entries] using found)
      simpa using later

/-- A well linked block is linked. -/
theorem WellLinked.linked {block : Block} (linked : block.WellLinked true) : block.Linked := by
  intro place link part found
  simpa using linked.link_eq_none_iff found

/-- Behind another part every part has a combinator. -/
theorem WellLinked.length_following : {block : Block} → block.WellLinked false →
    block.length = block.combinators.length
  | empty, _ => rfl
  | entry none _ _, linked => by
    have first := linked.1
    simp at first
  | entry (some _) _ rest, ⟨_, _, others⟩ => by
    have later := WellLinked.length_following others
    simpa [length, combinators, entries] using later

/-- A well linked block with parts has one part more than combinators. -/
theorem WellLinked.length_eq {block : Block} (linked : block.WellLinked true)
    (present : block ≠ .empty) : block.length = block.combinators.length + 1 := by
  cases block with
  | empty => exact absurd rfl present
  | entry link part rest =>
    obtain ⟨first, _, others⟩ := linked
    have none : link = none := by simpa using first
    have later := others.length_following
    simpa [none, length, combinators, entries] using later

end Block

mutual

/-- The blocks nested in a well linked part have parts and are well linked. -/
theorem Part.WellLinked.nested : {part : Part} → part.WellLinked →
    ∀ block ∈ part.nested, block ≠ .empty ∧ block.WellLinked true
  | .condition _, _, _, member => by simp [Part.nested] at member
  | .group block, ⟨present, linked⟩, inner, member => by
    rcases List.mem_cons.1 member with rfl | deeper
    · exact ⟨present, linked⟩
    · exact Block.WellLinked.nested linked inner deeper
  | .text _, _, _, member => by simp [Part.nested] at member

/-- The blocks nested in a well linked block have parts and are well linked. -/
theorem Block.WellLinked.nested : {block : Block} → {leading : Bool} → block.WellLinked leading →
    ∀ inner ∈ block.nested, inner ≠ .empty ∧ inner.WellLinked true
  | .empty, _, _, _, member => by simp [Block.nested] at member
  | .entry _ _ _, _, ⟨_, part, others⟩, inner, member => by
    rcases List.mem_append.1 member with first | later
    · exact Part.WellLinked.nested part inner first
    · exact Block.WellLinked.nested others inner later

end

/-- The parts of an extended filter are the old ones and the new one. -/
theorem Filter.parts_extend (filter : Filter) (part : Part) :
    (filter.extend part).block.parts = filter.block.parts ++ [part] := by
  simp [extend, Block.parts]

namespace Filter.Reachable

/-- The conditions a reachable filter was given are qualified with its alias. -/
theorem own {filter : Filter} (reachable : filter.Reachable) {c : Condition}
    (member : .condition c ∈ filter.block.parts) : c.qualifier = some filter.aliasName := by
  induction reachable with
  | make made =>
    obtain ⟨aliasName, _, rfl⟩ := map_eq_ok.1 made
    simp [Filter.empty, Block.parts, Block.entries] at member
  | @step filter next change _ _ accepted before _ =>
    cases step_eq_ok_iff.1 accepted with
    | @condition _ _ _ added made =>
      rw [parts_extend, List.mem_append, List.mem_singleton] at member
      rcases member with old | new
      · exact before old
      · have read := Condition.qualifier_of_make made
        rw [Condition.readQualifier_text] at read
        rw [Part.condition.inj new]
        exact (Except.ok.inj read).symm
    | combinator => exact before member
    | skip => exact before member
    | @group other =>
      rw [parts_extend, List.mem_append, List.mem_singleton] at member
      rcases member with old | new
      · exact before old
      · cases new
    | clear => simp [Filter.empty, Block.parts, Block.entries] at member

/-- A reachable filter keeps a combinator only behind a part. -/
theorem pending_present {filter : Filter} (reachable : filter.Reachable)
    (kept : filter.pending ≠ none) : filter.block ≠ .empty := by
  induction reachable with
  | make made =>
    obtain ⟨aliasName, _, rfl⟩ := map_eq_ok.1 made
    exact absurd rfl kept
  | @step filter next change _ _ accepted before _ =>
    cases step_eq_ok_iff.1 accepted with
    | condition => exact Block.append_ne_empty _ _ _
    | combinator present => exact present
    | skip => exact before kept
    | group => exact Block.append_ne_empty _ _ _
    | clear => exact absurd rfl kept

/-- A reachable filter is sound. -/
theorem sound {filter : Filter} (reachable : filter.Reachable) : filter.Sound := by
  have linked : filter.block.WellLinked true := reachable.block.wellLinked
  have every : ∀ block ∈ filter.block :: filter.block.nested, block.WellLinked true := by
    intro block member
    rcases List.mem_cons.1 member with rfl | inner
    · exact linked
    · exact (linked.nested block inner).2
  exact
    { linked := fun block member => (every block member).linked
      counted := fun block member => (every block member).length_eq
      present := fun block member => (linked.nested block member).1
      conditions := fun c _ => c.wellFormed
      own := fun _ => reachable.own
      pending := reachable.pending_present }

end Filter.Reachable

/-- A request about the filters a program keeps, which are referred to by number. -/
inductive FilterRequest where
  /-- A new filter of an alias. -/
  | new (aliasName : String)
  /-- A copy of a filter. -/
  | copy (source : Nat)
  /-- Adds a condition. -/
  | condition (target : Nat) (column : String) (comparison : Comparison) (operand : Operand)
  /-- Requests the combinator of the next part. -/
  | combinator (target : Nat) (combinator : Combinator)
  /-- Nests one filter into another, or into itself. -/
  | nest (target source : Nat)
  /-- Removes all parts and a requested combinator. -/
  | clear (target : Nat)
deriving DecidableEq, Repr

namespace FilterRequest

/-- The filters after a request, or the reason why it is refused. A request about a filter
that does not exist comes to nothing. -/
def perform (filters : List Filter) : FilterRequest → Except QueryError (List Filter)
  | new aliasName => (Filter.make aliasName).map fun filter => filters ++ [filter]
  | copy source => .ok (filters ++ filters[source]?.toList)
  | condition target column comparison operand =>
    changeAt (·.step (.condition column comparison operand)) filters target
  | combinator target requested => changeAt (·.step (.combinator requested)) filters target
  | nest target source =>
    match filters[source]? with
    | none => .ok filters
    | some other => changeAt (·.step (.group other)) filters target
  | clear target => changeAt (·.step .clear) filters target

/-- The filters after a request; a refused one changes nothing. -/
def attempt (filters : List Filter) (request : FilterRequest) : List Filter :=
  match request.perform filters with
  | .ok next => next
  | .error _ => filters

/-- The filters after requests made one after the other. -/
def run (filters : List Filter) (requests : List FilterRequest) : List Filter :=
  requests.foldl attempt filters

end FilterRequest

/-- What a change of one item leaves: the other items, and the changed one. -/
theorem mem_of_changeAt {α : Type} {change : α → Except QueryError α} {items items' : List α}
    {number : Nat} (changed : changeAt change items number = .ok items') {item : α}
    (member : item ∈ items') :
    item ∈ items ∨ ∃ before ∈ items, change before = .ok item := by
  induction items generalizing number items' with
  | nil =>
    cases changed
    exact .inl member
  | cons head rest ih =>
    cases number with
    | zero =>
      obtain ⟨next, made, rfl⟩ := map_eq_ok.1 changed
      rcases List.mem_cons.1 member with rfl | later
      · exact .inr ⟨head, List.mem_cons_self, made⟩
      · exact .inl (List.mem_cons_of_mem head later)
    | succ number =>
      obtain ⟨others, made, rfl⟩ := map_eq_ok.1 changed
      rcases List.mem_cons.1 member with rfl | later
      · exact .inl List.mem_cons_self
      · rcases ih made later with old | ⟨before, inside, made⟩
        · exact .inl (List.mem_cons_of_mem head old)
        · exact .inr ⟨before, List.mem_cons_of_mem head inside, made⟩

/-- A step of one of several reachable filters leaves all of them reachable. -/
theorem Filter.reachable_changeAt {filters next : List Filter} {change : FilterStep} {target : Nat}
    (all : ∀ filter ∈ filters, filter.Reachable)
    (inner : ∀ other, change = .group other → other.Reachable)
    (changed : changeAt (·.step change) filters target = .ok next) :
    ∀ filter ∈ next, filter.Reachable := by
  intro filter member
  rcases mem_of_changeAt changed member with old | ⟨before, inside, accepted⟩
  · exact all filter old
  · exact .step (all before inside) inner accepted

namespace FilterRequest

/-- A request that is met keeps all filters reachable. -/
theorem reachable_perform {filters next : List Filter} {request : FilterRequest}
    (all : ∀ filter ∈ filters, filter.Reachable) (met : request.perform filters = .ok next) :
    ∀ filter ∈ next, filter.Reachable := by
  cases request with
  | new aliasName =>
    obtain ⟨made, fresh, rfl⟩ := map_eq_ok.1 met
    intro filter member
    rcases List.mem_append.1 member with old | last
    · exact all filter old
    · rw [List.mem_singleton.1 last]
      exact .make fresh
  | copy source =>
    cases met
    intro filter member
    rcases List.mem_append.1 member with old | last
    · exact all filter old
    · exact all filter (List.mem_of_getElem? (Option.mem_toList.1 last))
  | condition target column comparison operand =>
    exact Filter.reachable_changeAt all (fun _ shape => by cases shape) met
  | combinator target requested =>
    exact Filter.reachable_changeAt all (fun _ shape => by cases shape) met
  | nest target source =>
    simp only [perform] at met
    split at met
    · cases met
      exact all
    · next other found =>
      refine Filter.reachable_changeAt all (fun inner shape => ?_) met
      cases shape
      exact all other (List.mem_of_getElem? found)
  | clear target => exact Filter.reachable_changeAt all (fun _ shape => by cases shape) met

/-- A request keeps all filters reachable, whether it is met or refused. -/
theorem reachable_attempt {filters : List Filter} (all : ∀ filter ∈ filters, filter.Reachable)
    (request : FilterRequest) : ∀ filter ∈ attempt filters request, filter.Reachable := by
  unfold attempt
  split
  · next met => exact reachable_perform all met
  · exact all

/-- Requests keep all filters reachable. -/
theorem reachable_run {filters : List Filter} (all : ∀ filter ∈ filters, filter.Reachable)
    (requests : List FilterRequest) : ∀ filter ∈ run filters requests, filter.Reachable := by
  induction requests generalizing filters with
  | nil => exact all
  | cons request rest ih => exact ih (reachable_attempt all request)

/-- Every filter of a program is sound, whatever was requested and refused before. -/
theorem sound_run (requests : List FilterRequest) :
    ∀ filter ∈ run [] requests, filter.Sound := by
  intro filter member
  have fresh : ∀ filter ∈ ([] : List Filter), filter.Reachable := by simp
  exact (reachable_run fresh requests filter member).sound

end FilterRequest

namespace Sample

/-- Of a filter on `staff` and a copy that is nested into it, one is kept as a copy and the other
is cleared. On the way a name, a second combinator and an empty list are refused. -/
def keeping : List FilterRequest :=
  [.new "staff", .new "1st", .condition 0 "rank" .less (.single (.integer 5)), .combinator 0 .or,
   .combinator 0 .and, .condition 0 "rank" .among (.list []), .nest 0 0, .copy 0, .clear 0]

/-- The filter `( staff.rank < 5 ) OR (( staff.rank < 5 ))`. -/
def doubled : Filter :=
  let staff : TableName := ⟨"staff", by decide +kernel⟩
  let first : Block := .entry none (.condition
    ⟨some staff, ⟨"rank", by decide⟩, .less, .single (.integer 5), by decide⟩) .empty
  ⟨staff, first.append (some .or) (.group first), none⟩

end Sample

/-- A filter with a copy of itself inside is sound. -/
theorem FilterRequest.sound_run_doubled :
    Sample.doubled ∈ run [] Sample.keeping ∧ Sample.doubled.Sound := by
  have member : Sample.doubled ∈ run [] Sample.keeping := by decide +kernel
  exact ⟨member, sound_run Sample.keeping Sample.doubled member⟩

end BoundSql
