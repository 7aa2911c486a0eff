import BoundSql.Proofs.Reachable
import Mathlib.Data.List.DropRight

/-!
# Filters and their history

A filter is called again and again, and some calls are refused. What it holds afterwards can
be read off the calls alone, without any state: its parts are those that accepted calls
appended since it was last cleared, in call order, and the link of a part is the combinator
that was requested since the part before it, or AND. `Filter.History` says so, one step keeps
it (`Filter.History.attempt`), and so every filter is its history (`Filter.eq_history`).

The reading goes backwards: `recent` are the calls since the last one that cleared the
filter, and `requested` are the requests among the calls since the last one that appended a
part. So a refused call and an empty filter, which append nothing, leave a request in force.
Which call is accepted next can be read off the calls as well (`Call.Admissible`).
-/

namespace BoundSql

open Outcome

/-- A call of a filter, and whether it was accepted. -/
structure Call where
  /-- What was asked for. -/
  step : FilterStep
  /-- Whether it was done. -/
  accepted : Bool

namespace Call

/-- The part an accepted call appends to a filter of the alias: the condition it describes,
or a copy of the block of a filter that has parts. -/
def part? (aliasName : TableName) : Call → Option Part
  | ⟨.condition column comparison operand, true⟩ =>
    ((Condition.make aliasName.text column comparison operand).map .condition).toOption
  | ⟨.group other, true⟩ => if other.isEmpty then none else some (.group other.block)
  | _ => none

/-- The combinator an accepted call requests. -/
def request? : Call → Option Combinator
  | ⟨.combinator combinator, true⟩ => some combinator
  | _ => none

/-- Whether the call clears the filter. -/
def clears : Call → Bool
  | ⟨.clear, true⟩ => true
  | _ => false

/-- The calls since the filter was last cleared. -/
def recent (calls : List Call) : List Call := calls.rtakeWhile fun call => !call.clears

/-- The parts the calls append, in call order. -/
def parts (aliasName : TableName) (calls : List Call) : List Part :=
  calls.filterMap (part? aliasName)

/-- The combinators requested since the last part. -/
def requested (aliasName : TableName) (calls : List Call) : List Combinator :=
  (calls.rtakeWhile fun call => (call.part? aliasName).isNone).filterMap request?

/-- The link of a part that is appended after the calls: none for the first part, else the
combinator requested since the part before it, or AND. -/
def link (aliasName : TableName) (calls : List Call) : Option Combinator :=
  if parts aliasName calls = [] then none
  else some ((requested aliasName calls).head?.getD .and)

/-- What is accepted after the calls: a condition that can be made, and a combinator if there
is a part and none was requested since the last one. Nesting and clearing always are. -/
def Admissible (aliasName : TableName) (calls : List Call) : FilterStep → Prop
  | .condition column comparison operand =>
    ∃ c, Condition.make aliasName.text column comparison operand = .ok c
  | .combinator _ =>
    parts aliasName (recent calls) ≠ [] ∧ requested aliasName (recent calls) = []
  | .group _ | .clear => True

end Call

namespace Filter

/-- The filter after a call; a refused one changes nothing. -/
def attempt (filter : Filter) (change : FilterStep) : Filter :=
  match filter.step change with
  | .ok next => next
  | .error _ => filter

/-- The filter after calls made one after the other. -/
def after (filter : Filter) (changes : List FilterStep) : Filter := changes.foldl attempt filter

/-- The call as it is answered. -/
def call (filter : Filter) (change : FilterStep) : Call := ⟨change, (filter.step change).isOk⟩

/-- The calls made one after the other, as they are answered. -/
def calls (filter : Filter) : List FilterStep → List Call
  | [] => []
  | change :: rest => filter.call change :: calls (filter.attempt change) rest

/-- What a filter holds is what its calls since it was made say. -/
structure History (filter : Filter) (calls : List Call) : Prop where
  /-- Its parts are those appended since it was last cleared, in call order. -/
  parts : filter.block.parts = Call.parts filter.aliasName (Call.recent calls)
  /-- Every one of them is linked by what was requested since the part before it. -/
  links : ∀ before call, before ++ [call] <+: Call.recent calls →
    ∀ part, call.part? filter.aliasName = some part →
      filter.block.entries[(Call.parts filter.aliasName before).length]? =
        some (Call.link filter.aliasName before, part)
  /-- The combinator it keeps is the one requested since the last part. -/
  pending : filter.pending = (Call.requested filter.aliasName (Call.recent calls)).head?
  /-- Between two parts at most one request is accepted. -/
  single : ∀ before, before <+: Call.recent calls →
    (Call.requested filter.aliasName before).length ≤ 1
  /-- A condition that is accepted can be made, so it is among the parts. -/
  described : ∀ column comparison operand, ⟨.condition column comparison operand, true⟩ ∈ calls →
    ∃ c, Condition.make filter.aliasName.text column comparison operand = .ok c

end Filter

namespace Call

/-- A call that does not clear the filter is the last of the recent calls. -/
theorem recent_concat {call : Call} (keeps : call.clears = false) (calls : List Call) :
    recent (calls ++ [call]) = recent calls ++ [call] := by
  rw [recent, List.rtakeWhile_concat, keeps]
  rfl

/-- A call that clears the filter leaves no recent call. -/
theorem recent_clear {call : Call} (clears : call.clears = true) (calls : List Call) :
    recent (calls ++ [call]) = [] := by
  rw [recent, List.rtakeWhile_concat, clears]
  rfl

/-- What one more call appends stands behind the parts before it. -/
theorem parts_concat (aliasName : TableName) (calls : List Call) (call : Call) :
    parts aliasName (calls ++ [call]) =
      parts aliasName calls ++ (call.part? aliasName).toList := by
  rw [parts, List.filterMap_append]
  cases found : call.part? aliasName <;> simp [parts, found]

/-- Behind a part no request is in force; any other call adds what it requests. -/
theorem requested_concat (aliasName : TableName) (calls : List Call) (call : Call) :
    requested aliasName (calls ++ [call]) =
      if (call.part? aliasName).isNone then
        requested aliasName calls ++ call.request?.toList
      else [] := by
  rw [requested, List.rtakeWhile_concat]
  cases found : call.part? aliasName with
  | none => cases asked : call.request? <;> simp [requested, asked]
  | some part => simp

/-- Nothing was requested before the first call. -/
theorem requested_nil (aliasName : TableName) : requested aliasName [] = [] := rfl

end Call

namespace Filter

/-- The filter after one more call. -/
theorem after_concat (filter : Filter) (changes : List FilterStep) (change : FilterStep) :
    filter.after (changes ++ [change]) = (filter.after changes).attempt change := by
  simp [after]

/-- One more call is answered by the filter as it is then. -/
theorem calls_concat (filter : Filter) (changes : List FilterStep) (change : FilterStep) :
    filter.calls (changes ++ [change]) =
      filter.calls changes ++ [(filter.after changes).call change] := by
  induction changes generalizing filter with
  | nil => rfl
  | cons first rest ih => simpa [calls, after] using ih (filter.attempt first)

/-- An accepted call leaves the filter it leads to. -/
theorem attempt_of_effect {filter next : Filter} {change : FilterStep}
    (effect : filter.Effect change next) :
    filter.attempt change = next ∧ filter.call change = ⟨change, true⟩ := by
  have accepted := step_eq_ok_iff.2 effect
  simp [attempt, call, accepted, Except.isOk, Except.toBool]

/-- A refused call changes nothing. -/
theorem attempt_of_error {filter : Filter} {change : FilterStep} {cause : QueryError}
    (refused : filter.step change = .error cause) :
    filter.attempt change = filter ∧ filter.call change = ⟨change, false⟩ := by
  simp [attempt, call, refused, Except.isOk, Except.toBool]

namespace History

variable {filter next : Filter} {calls : List Call} {call : Call}

/-- A new filter has no history. -/
theorem empty (aliasName : TableName) : (Filter.empty aliasName).History [] where
  parts := rfl
  links before call early part _ := by
    have nothing := List.prefix_nil.1 early
    simp at nothing
  pending := rfl
  single before early := by
    rw [List.prefix_nil.1 early, Call.requested_nil]
    exact Nat.zero_le 1
  described _ _ _ member := absurd member List.not_mem_nil

/-- The link the filter gives its next part is the one its calls say. -/
theorem nextLink_eq (history : filter.History calls) :
    filter.block.nextLink filter.pending =
      Call.link filter.aliasName (Call.recent calls) := by
  rw [Call.link, ← history.parts, ← history.pending]
  cases filter.block <;> rfl

/-- No combinator is kept exactly if none was requested since the last part. -/
theorem pending_eq_none_iff (history : filter.History calls) :
    filter.pending = none ↔ Call.requested filter.aliasName (Call.recent calls) = [] := by
  rw [history.pending, List.head?_eq_none_iff]

/-- The calls before a call decide whether it is accepted. -/
theorem accepted_iff (history : filter.History calls) (change : FilterStep) :
    (∃ next, filter.step change = .ok next) ↔
      Call.Admissible filter.aliasName calls change := by
  have vacant : filter.block = .empty ↔
      Call.parts filter.aliasName (Call.recent calls) = [] := by
    rw [← history.parts]
    cases filter.block <;> simp [Block.parts, Block.entries]
  constructor
  · rintro ⟨next, accepted⟩
    cases step_eq_ok_iff.1 accepted with
    | @condition _ _ _ c made => exact ⟨c, made⟩
    | combinator present free => exact ⟨mt vacant.2 present, history.pending_eq_none_iff.1 free⟩
    | skip | group | clear => trivial
  · intro admissible
    cases change with
    | condition column comparison operand =>
      obtain ⟨c, made⟩ := admissible
      exact ⟨_, step_eq_ok_iff.2 (.condition made)⟩
    | combinator combinator =>
      obtain ⟨present, free⟩ := admissible
      exact ⟨_, step_eq_ok_iff.2
        (.combinator (mt vacant.1 present) (history.pending_eq_none_iff.2 free))⟩
    | group | clear => exact ⟨_, rfl⟩

/-- A filter that keeps its parts, and has the part of one more call behind them, has one more
call in its history. -/
theorem append (history : filter.History calls) (keeps : call.clears = false)
    (same : next.aliasName = filter.aliasName)
    (entries : next.block.entries = filter.block.entries ++
      (call.part? filter.aliasName).toList.map
        fun part => (Call.link filter.aliasName (Call.recent calls), part))
    (pending : next.pending =
      (Call.requested filter.aliasName (Call.recent calls ++ [call])).head?)
    (single : (Call.requested filter.aliasName (Call.recent calls ++ [call])).length ≤ 1)
    (described : ∀ column comparison operand, call = ⟨.condition column comparison operand, true⟩ →
      ∃ c, Condition.make filter.aliasName.text column comparison operand = .ok c) :
    next.History (calls ++ [call]) := by
  have recent := Call.recent_concat keeps calls
  have places : filter.block.entries.length =
      (Call.parts filter.aliasName (Call.recent calls)).length := by
    rw [← history.parts, Block.parts, List.length_map]
  constructor
  case parts =>
    rw [recent, same, Call.parts_concat, Block.parts, entries, List.map_append, List.map_map,
      ← history.parts]
    simp [Block.parts, Function.comp_def]
  case links =>
    intro before last early part found
    rw [recent] at early
    rw [same] at found ⊢
    rw [entries]
    rcases List.prefix_concat_iff.1 early with whole | old
    · -- the part of the new call stands at the end
      obtain ⟨rfl, ends⟩ := List.append_inj' whole rfl
      rw [List.singleton_inj.1 ends] at found
      rw [found, ← places]
      exact List.getElem?_concat_length
    · -- an older part stands where it stood
      have stood := history.links before last old part found
      have inside := (List.getElem?_eq_some_iff.1 stood).1
      rw [List.getElem?_append_left inside]
      exact stood
  case pending =>
    rw [recent, same]
    exact pending
  case single =>
    intro before early
    rw [recent] at early
    rw [same]
    rcases List.prefix_concat_iff.1 early with whole | old
    · rw [whole]
      exact single
    · exact history.single before old
  case described =>
    intro column comparison operand member
    rw [same]
    rcases List.mem_append.1 member with old | last
    · exact history.described column comparison operand old
    · exact described column comparison operand (List.mem_singleton.1 last).symm

/-- A call that neither appends nor requests nor clears anything is passed over. -/
theorem quiet (history : filter.History calls) (keeps : call.clears = false)
    (adds : call.part? filter.aliasName = none) (asks : call.request? = none)
    (other : ∀ column comparison operand, call ≠ ⟨.condition column comparison operand, true⟩) :
    filter.History (calls ++ [call]) := by
  have requested : Call.requested filter.aliasName (Call.recent calls ++ [call]) =
      Call.requested filter.aliasName (Call.recent calls) := by
    rw [Call.requested_concat, adds, asks, Option.toList_none, List.append_nil]
    rfl
  refine history.append keeps rfl ?_ ?_ ?_ ?_
  · rw [adds, Option.toList_none, List.map_nil, List.append_nil]
  · rw [requested]
    exact history.pending
  · rw [requested]
    exact history.single _ (List.prefix_refl _)
  · intro column comparison operand shape
    exact absurd shape (other column comparison operand)

/-- A call that appends a part ends the force of a request. -/
theorem extend (history : filter.History calls) {part : Part} (keeps : call.clears = false)
    (adds : call.part? filter.aliasName = some part)
    (described : ∀ column comparison operand, call = ⟨.condition column comparison operand, true⟩ →
      ∃ c, Condition.make filter.aliasName.text column comparison operand = .ok c) :
    (filter.extend part).History (calls ++ [call]) := by
  have requested : Call.requested filter.aliasName (Call.recent calls ++ [call]) = [] := by
    rw [Call.requested_concat, adds]
    rfl
  refine history.append keeps rfl ?_ ?_ ?_ described
  · rw [adds, ← history.nextLink_eq]
    exact Block.entries_append _ part filter.block
  · rw [requested]
    rfl
  · rw [requested]
    exact Nat.zero_le 1

/-- A combinator that is requested while none is kept is the only one since the last part. -/
theorem request (history : filter.History calls) {combinator : Combinator}
    (free : filter.pending = none) :
    ({ filter with pending := some combinator } : Filter).History
      (calls ++ [⟨.combinator combinator, true⟩]) := by
  have nothing := history.pending_eq_none_iff.1 free
  have requested : Call.requested filter.aliasName
      (Call.recent calls ++ [⟨.combinator combinator, true⟩]) = [combinator] := by
    rw [Call.requested_concat, nothing]
    rfl
  refine history.append rfl rfl ?_ ?_ ?_ ?_
  · exact (List.append_nil _).symm
  · rw [requested]
    rfl
  · rw [requested]
    exact Nat.le_refl 1
  · intro column comparison operand shape
    cases shape

/-- A call that clears the filter begins a new history. -/
theorem clear (history : filter.History calls) :
    (Filter.empty filter.aliasName).History (calls ++ [⟨.clear, true⟩]) := by
  have recent : Call.recent (calls ++ [⟨.clear, true⟩]) = [] := Call.recent_clear rfl calls
  have fresh := History.empty filter.aliasName
  constructor
  case parts =>
    rw [recent]
    exact fresh.parts
  case links =>
    rw [recent]
    exact fresh.links
  case pending =>
    rw [recent]
    exact fresh.pending
  case single =>
    rw [recent]
    exact fresh.single
  case described =>
    intro column comparison operand member
    rcases List.mem_append.1 member with old | last
    · exact history.described column comparison operand old
    · cases List.mem_singleton.1 last

/-- One more call, accepted or refused, is one more call of the history. -/
theorem attempt (history : filter.History calls) (change : FilterStep) :
    (filter.attempt change).History (calls ++ [filter.call change]) := by
  cases outcome : filter.step change with
  | error cause =>
    obtain ⟨unchanged, refused⟩ := attempt_of_error outcome
    rw [unchanged, refused]
    refine history.quiet ?_ ?_ ?_ (by simp)
    · cases change <;> rfl
    · cases change <;> rfl
    · cases change <;> rfl
  | ok next =>
    have effect := step_eq_ok_iff.1 outcome
    obtain ⟨changed, accepted⟩ := attempt_of_effect effect
    rw [changed, accepted]
    cases effect with
    | @condition column comparison operand c made =>
      refine history.extend rfl ?_ ?_
      · simp [Call.part?, made, Except.map, Except.toOption]
      · intro _ _ _ shape
        cases shape
        exact ⟨c, made⟩
    | combinator present free => exact history.request free
    | skip vacant =>
      refine history.quiet rfl ?_ rfl (by simp)
      rw [Call.part?, if_pos (isEmpty_iff.2 vacant)]
    | group present =>
      refine history.extend rfl ?_ (by simp)
      rw [Call.part?, if_neg fun vacant => present (isEmpty_iff.1 vacant)]
    | clear => exact history.clear

/-- Calls made one after the other are the history of the filter they lead to. -/
theorem after (aliasName : TableName) (changes : List FilterStep) :
    ((Filter.empty aliasName).after changes).History
      ((Filter.empty aliasName).calls changes) := by
  induction changes using List.reverseRecOn with
  | nil => exact History.empty aliasName
  | append_singleton changes change ih =>
    rw [after_concat, calls_concat]
    exact ih.attempt change

end History

/-- No call changes the alias. -/
theorem alias_after (filter : Filter) (changes : List FilterStep) :
    (filter.after changes).aliasName = filter.aliasName := by
  induction changes using List.reverseRecOn with
  | nil => rfl
  | append_singleton changes change ih =>
    rw [after_concat, ← ih]
    cases outcome : (filter.after changes).step change with
    | error cause => rw [(attempt_of_error outcome).1]
    | ok next =>
      rw [(attempt_of_effect (step_eq_ok_iff.1 outcome)).1]
      exact alias_step outcome

/-- A filter is exactly its history: its parts are those that accepted calls appended since
it was last cleared, each linked by the combinator requested since the part before it, or by
AND, and which call is accepted next follows from the calls before it. Refused calls and empty
filters leave it as it is, with the request it keeps, and a filter that is cleared is a new
one. -/
theorem eq_history (aliasName : TableName) (changes : List FilterStep) :
    ((empty aliasName).after changes).aliasName = aliasName ∧
    ((empty aliasName).after changes).History ((empty aliasName).calls changes) ∧
    (∀ change, (∃ next, ((empty aliasName).after changes).step change = .ok next) ↔
      Call.Admissible aliasName ((empty aliasName).calls changes) change) ∧
    (∀ change, (∃ cause, ((empty aliasName).after changes).step change = .error cause) ∨
        (∃ other, change = .group other ∧ other.block = .empty) →
      (empty aliasName).after (changes ++ [change]) = (empty aliasName).after changes) ∧
    make aliasName.text = .ok ((empty aliasName).after (changes ++ [.clear])) := by
  have same : ((empty aliasName).after changes).aliasName = aliasName :=
    alias_after (empty aliasName) changes
  have history := History.after aliasName changes
  refine ⟨same, history, ?_, ?_, ?_⟩
  · intro change
    have accepted := history.accepted_iff change
    rwa [same] at accepted
  · intro change passed
    rw [after_concat]
    rcases passed with ⟨cause, refused⟩ | ⟨other, rfl, vacant⟩
    · exact (attempt_of_error refused).1
    · exact (attempt_of_effect (.skip vacant)).1
  · have cleared : Effect ((empty aliasName).after changes) .clear
        (empty ((empty aliasName).after changes).aliasName) := .clear
    rw [after_concat, (attempt_of_effect cleared).1, same, make, TableName.read_text]
    rfl

-- The request for OR outlives a second request, an empty list and an empty filter.
example :
    let users : TableName := ⟨"u", by decide +kernel⟩
    ((empty users).after
      [.isNull "name", .combinator .or, .combinator .and, .among "id" [], .group (empty users),
        .isNotNull "id"]).block.combinators = [.or] := by
  decide +kernel

end Filter

end BoundSql
