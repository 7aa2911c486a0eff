import Mathlib.Data.List.Forall2

/-!
# Outcomes

Steps that can be refused, taken one after the other. `bind_eq_ok` and `map_eq_ok` take a
successful computation apart. `Alike` compares two computations: both are refused for the
same reason, or both succeed with related results; doing the same with alike outcomes
keeps them alike. The same is stated of results that may be missing, one or many.
-/

namespace BoundSql.Outcome

variable {ε α β α' β' γ : Type}

/-- A computation succeeds exactly if its first step and the rest do. -/
theorem bind_eq_ok {first : Except ε α} {next : α → Except ε β} {result : β} :
    first >>= next = .ok result ↔ ∃ a, first = .ok a ∧ next a = .ok result := by
  cases first with
  | error cause => simp [bind, Except.bind]
  | ok a => simp [bind, Except.bind]

/-- A computation is refused exactly if its first step is, or the rest. -/
theorem bind_eq_error {first : Except ε α} {next : α → Except ε β} {cause : ε} :
    first >>= next = .error cause ↔
      first = .error cause ∨ ∃ a, first = .ok a ∧ next a = .error cause := by
  cases first with
  | error refused => simp [bind, Except.bind]
  | ok a => simp [bind, Except.bind]

/-- A computation succeeds exactly if there is no cause to refuse it. -/
theorem exists_ok_iff {outcome : Except ε α} :
    (∃ a, outcome = .ok a) ↔ ∀ cause, outcome ≠ .error cause := by
  cases outcome with
  | error cause => simp
  | ok a => simp

/-- A computation whose cause of refusal is known succeeds exactly if there is none. -/
theorem exists_ok_iff_eq_none {outcome : Except ε α} {cause? : Option ε}
    (told : ∀ cause, outcome = .error cause ↔ cause? = some cause) :
    (∃ a, outcome = .ok a) ↔ cause? = none := by
  rw [exists_ok_iff, Option.eq_none_iff_forall_ne_some]
  exact forall_congr' fun cause => not_congr (told cause)

/-- A mapped computation succeeds exactly if the computation does. -/
theorem map_eq_ok {first : Except ε α} {change : α → β} {result : β} :
    first.map change = .ok result ↔ ∃ a, first = .ok a ∧ change a = result := by
  cases first with
  | error cause => simp [Except.map]
  | ok a => simp [Except.map]

/-- A mapped computation is refused exactly if the computation is. -/
theorem map_eq_error {first : Except ε α} {change : α → β} {cause : ε} :
    first.map change = .error cause ↔ first = .error cause := by
  cases first with
  | error refused => simp [Except.map]
  | ok a => simp [Except.map]

/-- Giving refusals other reasons leaves the successes as they are. -/
theorem mapError_eq_ok {ε' : Type} {first : Except ε α} {change : ε → ε'} {result : α} :
    first.mapError change = .ok result ↔ first = .ok result := by
  cases first with
  | error cause => simp [Except.mapError]
  | ok a => simp [Except.mapError]

/-- A list of computations succeeds exactly if each of them does, with the results in order. -/
theorem mapM_eq_ok {step : α → Except ε β} {items : List α} {results : List β} :
    items.mapM step = .ok results ↔ List.Forall₂ (fun a b => step a = .ok b) items results := by
  induction items generalizing results with
  | nil => simp [pure, Except.pure, eq_comm]
  | cons item rest ih =>
    rw [List.mapM_cons]
    constructor
    · intro done
      obtain ⟨first, made, done⟩ := bind_eq_ok.1 done
      obtain ⟨others, later, done⟩ := bind_eq_ok.1 done
      cases done
      exact .cons made (ih.1 later)
    · rintro (_ | ⟨made, later⟩)
      exact bind_eq_ok.2 ⟨_, made, bind_eq_ok.2 ⟨_, ih.2 later, rfl⟩⟩

/-- A list of computations succeeds exactly if each of them can. -/
theorem exists_mapM_iff {step : α → Except ε β} {items : List α} :
    (∃ results, items.mapM step = .ok results) ↔
      ∀ item ∈ items, ∃ result, step item = .ok result := by
  simp only [mapM_eq_ok]
  induction items with
  | nil => simp
  | cons item rest ih =>
    rw [List.forall_mem_cons, ← ih]
    constructor
    · rintro ⟨_, _ | ⟨made, later⟩⟩
      exact ⟨⟨_, made⟩, ⟨_, later⟩⟩
    · rintro ⟨⟨_, made⟩, ⟨_, later⟩⟩
      exact ⟨_, .cons made later⟩

/-- A list of computations is refused for the cause of the first one that is. -/
theorem mapM_eq_error {step : α → Except ε β} {cause? : α → Option ε}
    (told : ∀ a cause, step a = .error cause ↔ cause? a = some cause) {items : List α}
    {cause : ε} : items.mapM step = .error cause ↔ items.findSome? cause? = some cause := by
  induction items with
  | nil => simp [pure, Except.pure]
  | cons item rest ih =>
    rw [List.mapM_cons, bind_eq_error, List.findSome?_cons]
    cases found : cause? item with
    | some first =>
      simp [(told item first).2 found]
    | none =>
      obtain ⟨result, made⟩ := (exists_ok_iff_eq_none (told item)).2 found
      simp [made, bind_eq_error, ih, pure, Except.pure]

/-- Every result of a list of computations is the result of one of them. -/
theorem exists_of_mem_mapM {step : α → Except ε β} {items : List α} {results : List β}
    (done : items.mapM step = .ok results) {b : β} (member : b ∈ results) :
    ∃ a, step a = .ok b := by
  have all := mapM_eq_ok.1 done
  clear done
  induction all with
  | nil => cases member
  | cons made _ ih =>
    rcases List.mem_cons.1 member with rfl | later
    · exact ⟨_, made⟩
    · exact ih later

/-- Two outcomes with the same refusal or with related results. -/
inductive Alike (related : α → α' → Prop) : Except ε α → Except ε α' → Prop where
  /-- Both are refused for the same reason. -/
  | error (cause : ε) : Alike related (.error cause) (.error cause)
  /-- Both succeed. -/
  | ok {a : α} {a' : α'} (results : related a a') : Alike related (.ok a) (.ok a')

variable {related : α → α' → Prop} {related' : β → β' → Prop}

/-- An outcome is alike to itself. -/
theorem Alike.refl (outcome : Except ε α) : Alike Eq outcome outcome := by
  cases outcome with
  | error cause => exact .error cause
  | ok a => exact .ok rfl

/-- Changing related results in a related way keeps outcomes alike. -/
theorem Alike.map {first : Except ε α} {second : Except ε α'} {change : α → β} {change' : α' → β'}
    (outcomes : Alike related first second)
    (keeps : ∀ a a', related a a' → related' (change a) (change' a')) :
    Alike related' (first.map change) (second.map change') := by
  cases outcomes with
  | error cause => exact .error cause
  | ok results => exact .ok (keeps _ _ results)

/-- Alike steps on related results keep outcomes alike. -/
theorem Alike.bind {first : Except ε α} {second : Except ε α'} {next : α → Except ε β}
    {next' : α' → Except ε β'} (outcomes : Alike related first second)
    (keeps : ∀ a a', related a a' → Alike related' (next a) (next' a')) :
    Alike related' (first >>= next) (second >>= next') := by
  cases outcomes with
  | error cause => exact .error cause
  | ok results => exact keeps _ _ results

/-- Alike steps over related lists have alike outcomes. -/
theorem Alike.mapM {step : α → Except ε β} {step' : α' → Except ε β'} {items : List α}
    {items' : List α'} (lists : List.Forall₂ related items items')
    (keeps : ∀ a a', related a a' → Alike related' (step a) (step' a')) :
    Alike (List.Forall₂ related') (items.mapM step) (items'.mapM step') := by
  induction lists with
  | nil => exact .ok .nil
  | cons heads tails ih =>
    simp only [List.mapM_cons]
    refine (keeps _ _ heads).bind fun b b' results => ?_
    exact ih.bind fun rest rest' others => .ok (.cons results others)

/-- A fold by alike steps over related lists has alike outcomes. -/
theorem Alike.foldlM {step : β → α → Except ε β} {step' : β' → α' → Except ε β'} {start : β}
    {start' : β'} {items : List α} {items' : List α'} (lists : List.Forall₂ related items items')
    (starts : related' start start')
    (keeps : ∀ b b', related' b b' → ∀ a a', related a a' →
      Alike related' (step b a) (step' b' a')) :
    Alike related' (items.foldlM step start) (items'.foldlM step' start') := by
  induction lists generalizing start start' with
  | nil => exact .ok starts
  | cons heads tails ih =>
    simp only [List.foldlM_cons]
    exact (keeps _ _ starts _ _ heads).bind fun b b' results => ih results

/-- Changing related things in a related way keeps them related, if there are any. -/
theorem map_related {item : Option α} {item' : Option α'} {change : α → β} {change' : α' → β'}
    (items : Option.Rel related item item')
    (keeps : ∀ a a', related a a' → related' (change a) (change' a')) :
    Option.Rel related' (item.map change) (item'.map change') := by
  cases items with
  | none => exact .none
  | some both => exact .some (keeps _ _ both)

/-- Items with the same number are related, if there are any. -/
theorem getElem?_related {items : List α} {items' : List α'}
    (lists : List.Forall₂ related items items') (number : Nat) :
    Option.Rel related items[number]? items'[number]? := by
  induction lists generalizing number with
  | nil => exact .none
  | cons heads tails ih =>
    cases number with
    | zero => exact .some heads
    | succ number => exact ih number

/-- What is found at the same items is related, if it is related item by item. -/
theorem filterMap_related {find : γ → Option α} {find' : γ → Option α'} {items : List γ}
    (each : ∀ item ∈ items, Option.Rel related (find item) (find' item)) :
    List.Forall₂ related (items.filterMap find) (items.filterMap find') := by
  have lists : List.Forall₂ (fun item item' => item = item' ∧ item ∈ items) items items :=
    List.forall₂_same.2 fun item member => ⟨rfl, member⟩
  refine List.rel_filterMap (fun item item' same => ?_) lists
  rw [← same.1]
  exact each item same.2

/-- If something is found at the same items, it is related item by item as soon as all that
is found is related. -/
theorem related_of_filterMap {coarse : α → α' → Prop} {find : γ → Option α} {find' : γ → Option α'}
    {items : List γ} (each : ∀ item ∈ items, Option.Rel coarse (find item) (find' item))
    (all : List.Forall₂ related (items.filterMap find) (items.filterMap find')) :
    ∀ item ∈ items, Option.Rel related (find item) (find' item) := by
  induction items with
  | nil => exact fun item member => absurd member List.not_mem_nil
  | cons head rest ih =>
    have later := ih fun item member => each item (List.mem_cons_of_mem head member)
    have first := each head List.mem_cons_self
    rw [List.filterMap_cons, List.filterMap_cons] at all
    have both : Option.Rel related (find head) (find' head) ∧
        List.Forall₂ related (rest.filterMap find) (rest.filterMap find') := by
      revert first all
      generalize find head = found, find' head = found'
      intro all first
      cases first with
      | none => exact ⟨.none, all⟩
      | some same =>
        cases all with
        | cons heads tails => exact ⟨.some heads, tails⟩
    intro item member
    rcases List.mem_cons.1 member with same | inside
    · rw [same]
      exact both.1
    · exact later both.2 item inside

/-- Rows of related things can be cut behind two beginnings of the same length. -/
theorem forall₂_of_append {xs ys : List α} {xs' ys' : List α'} (lengths : xs.length = xs'.length)
    (all : List.Forall₂ related (xs ++ ys) (xs' ++ ys')) :
    List.Forall₂ related xs xs' ∧ List.Forall₂ related ys ys' := by
  constructor
  · have first := List.forall₂_take xs.length all
    rwa [List.take_left, lengths, List.take_left] at first
  · have second := List.forall₂_drop xs.length all
    rwa [List.drop_left, lengths, List.drop_left] at second

end BoundSql.Outcome
