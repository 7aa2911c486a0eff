import BoundSql.Proofs.Reachable

/-!
# Checked parts

What `Block.ofParts` accepts. The link of a part is checked against the block that the parts before
it have come to, and a nested block without parts leaves that block as it is. So exactly the parts
behind one that is retained have to carry a link (`Block.ofParts_eq_ok_iff`).

Counting positions instead, every part but the first would have to carry one. The two agree where
the first part is retained. Where it is not, and others follow it, no row of parts is accepted that
is linked by position (`Block.linked_part_refused`).
-/

namespace BoundSql

open Outcome

/-- The parts of a block that is to be built, with their links. -/
abbrev PartRow := List (Option Combinator × Part)

namespace Block

/-- Whether an entry is retained: only nested blocks without parts are left out. -/
def retained (entry : Option Combinator × Part) : Bool := !vacuous entry.2

/-- Every entry but the first carries a link. -/
def LinkedByPosition : PartRow → Prop
  | [] => True
  | first :: others => first.1 = none ∧ ∀ entry ∈ others, entry.1.isSome

instance : DecidablePred LinkedByPosition
  | [] => inferInstanceAs (Decidable True)
  | _ :: _ => inferInstanceAs (Decidable (_ ∧ _))

/-- Exactly the entries behind a retained one carry a link. `begun` says that one stands before all
of them. -/
def LinkedBehindRetained (begun : Bool) (entries : PartRow) : Prop :=
  ∀ before entry after, entries = before ++ entry :: after →
    entry.1.isSome = (begun || before.any retained)

/-- A row without entries is linked. -/
@[simp] theorem linkedBehindRetained_nil {begun : Bool} : LinkedBehindRetained begun [] := by
  simp [LinkedBehindRetained]

/-- The first entry decides whether a retained one stands before the others. -/
theorem linkedBehindRetained_cons {begun : Bool} {entry : Option Combinator × Part}
    {rest : PartRow} :
    LinkedBehindRetained begun (entry :: rest) ↔
      entry.1.isSome = begun ∧ LinkedBehindRetained (begun || retained entry) rest := by
  constructor
  · intro linked
    refine ⟨by simpa using linked [] entry rest rfl, fun before later after same => ?_⟩
    have behind := linked (entry :: before) later after (by rw [same, List.cons_append])
    rwa [List.any_cons, ← Bool.or_assoc] at behind
  · rintro ⟨first, others⟩ before later after same
    cases before with
    | nil =>
      cases same
      simpa using first
    | cons head more =>
      cases same
      rw [List.any_cons, ← Bool.or_assoc]
      exact others more later after rfl

/-- Behind a retained entry all entries carry links. -/
theorem linkedBehindRetained_true {entries : PartRow} :
    LinkedBehindRetained true entries ↔ ∀ entry ∈ entries, entry.1.isSome := by
  induction entries with
  | nil => simp
  | cons entry rest ih => simp [linkedBehindRetained_cons, ih]

/-- Blocks with the same entries are equal. -/
theorem entries_inj {first second : Block} : first.entries = second.entries ↔ first = second := by
  refine ⟨fun same => ?_, fun same => by rw [same]⟩
  rw [← ofEntries_entries first, same, ofEntries_entries]

/-- A part is pushed exactly if it carries a link from the second part on; then it stands at the end
if it is retained. -/
theorem push_eq_ok_iff {block result : Block} {link : Option Combinator} {part : Part} :
    block.push link part = .ok result ↔
      link.isSome = !block.isEmpty ∧
        result.entries = block.entries ++ [(link, part)].filter retained := by
  have grown : (if vacuous part then block else block.append link part).entries =
      block.entries ++ [(link, part)].filter retained := by
    cases found : vacuous part <;> simp [retained, found]
  have exact_iff : (if vacuous part then block else block.append link part) = result ↔
      result.entries = block.entries ++ [(link, part)].filter retained := by
    rw [← entries_inj, grown, eq_comm]
  cases vacant : block.isEmpty <;> cases link <;> simp [push, vacant, exact_iff]

/-- What refuses a part is always its link. -/
theorem subject_of_push {block : Block} {link : Option Combinator} {part : Part}
    {cause : QueryError} (refused : block.push link part = .error cause) :
    cause.subject = "Malformed filter" := by
  cases vacant : block.isEmpty <;> cases link <;> simp only [push, vacant] at refused <;>
    cases refused <;> rfl

/-- A block has a part once one was retained. -/
theorem isEmpty_eq_of_pushed {block next : Block} {entry : Option Combinator × Part}
    (grown : next.entries = block.entries ++ [entry].filter retained) :
    (!next.isEmpty) = (!block.isEmpty || retained entry) := by
  have counted : ∀ any : Block, any.isEmpty = any.entries.isEmpty := by
    intro any
    cases any <;> rfl
  rw [counted, counted, grown]
  cases found : retained entry <;> simp [found]

/-- Parts are pushed one after the other exactly if their links fit behind the block, and then the
retained ones stand behind it. -/
theorem foldlM_push_eq_ok_iff {entries : PartRow} {block result : Block} :
    entries.foldlM (fun block (link, part) => block.push link part) block = .ok result ↔
      LinkedBehindRetained (!block.isEmpty) entries ∧
        result.entries = block.entries ++ entries.filter retained := by
  induction entries generalizing block with
  | nil => simp [pure, Except.pure, ← entries_inj, eq_comm]
  | cons entry rest ih =>
    rw [List.foldlM_cons, bind_eq_ok, linkedBehindRetained_cons]
    constructor
    · rintro ⟨next, pushed, later⟩
      obtain ⟨fits, grown⟩ := push_eq_ok_iff.1 pushed
      obtain ⟨linked, all⟩ := ih.1 later
      rw [isEmpty_eq_of_pushed grown] at linked
      refine ⟨⟨fits, linked⟩, ?_⟩
      rw [all, grown, List.append_assoc, ← List.filter_append, List.singleton_append]
    · rintro ⟨⟨fits, linked⟩, all⟩
      let next := ofEntries (block.entries ++ [entry].filter retained)
      have grown : next.entries = block.entries ++ [entry].filter retained := entries_ofEntries _
      refine ⟨next, push_eq_ok_iff.2 ⟨fits, grown⟩, ih.2 ⟨?_, ?_⟩⟩
      · rwa [isEmpty_eq_of_pushed grown]
      · rw [all, grown, List.append_assoc, ← List.filter_append, List.singleton_append]

/-- What refuses a row of parts is the link of one of them. -/
theorem subject_of_foldlM {entries : PartRow} {block : Block} {cause : QueryError}
    (refused : entries.foldlM (fun block (link, part) => block.push link part) block =
      .error cause) : cause.subject = "Malformed filter" := by
  induction entries generalizing block with
  | nil => cases refused
  | cons entry rest ih =>
    rw [List.foldlM_cons] at refused
    rcases bind_eq_error.1 refused with first | ⟨next, _, later⟩
    · exact subject_of_push first
    · exact ih later

/-- Where the first entry is retained, the links behind retained entries are those by position. -/
theorem linkedBehindRetained_iff_byPosition {entries : PartRow}
    (first : ∀ entry ∈ entries.head?, retained entry = true) :
    LinkedBehindRetained false entries ↔ LinkedByPosition entries := by
  cases entries with
  | nil => simp [LinkedByPosition]
  | cons entry rest =>
    have present : retained entry = true := first entry rfl
    rw [linkedBehindRetained_cons, present, Bool.or_true, linkedBehindRetained_true,
      LinkedByPosition, Option.isSome_eq_false_iff, Option.isNone_iff_eq_none]

/-- The first retained entry of a linked row carries no link. -/
theorem link_eq_none_of_head? {entries : PartRow} (linked : LinkedBehindRetained false entries) :
    ∀ entry ∈ (entries.filter retained).head?, entry.1 = none := by
  induction entries with
  | nil => simp
  | cons first rest ih =>
    obtain ⟨leading, others⟩ := linkedBehindRetained_cons.1 linked
    cases present : retained first with
    | true =>
      rw [List.filter_cons_of_pos present]
      simpa using leading
    | false =>
      rw [present, Bool.or_false] at others
      rw [List.filter_cons_of_neg (by simp [present])]
      exact ih others

/-- A row of parts makes a block exactly if every part behind a retained one carries a link, and no
other part does. The block consists of the retained parts, in order, each with the link it was
given, so the first of them has none; any other row is refused as malformed.

A link by position is the same where the first part is retained. Where it is left out and others
follow, a row that is linked by position is never accepted. -/
theorem ofParts_eq_ok_iff (entries : PartRow) :
    (∀ block, ofParts entries = .ok block ↔
      LinkedBehindRetained false entries ∧ block.entries = entries.filter retained) ∧
    (∀ block, ofParts entries = .ok block → ∀ entry ∈ block.entries.head?, entry.1 = none) ∧
    (∀ cause, ofParts entries = .error cause → cause.subject = "Malformed filter") ∧
    ((∀ entry ∈ entries.head?, retained entry = true) →
      (LinkedBehindRetained false entries ↔ LinkedByPosition entries)) ∧
    (∀ first second rest, entries = first :: second :: rest → retained first = false →
      LinkedByPosition entries → ∀ block, ofParts entries ≠ .ok block) := by
  have accepted : ∀ block, ofParts entries = .ok block ↔
      LinkedBehindRetained false entries ∧ block.entries = entries.filter retained := fun block =>
    foldlM_push_eq_ok_iff
  refine ⟨accepted, fun block made => ?_, fun cause => subject_of_foldlM,
    linkedBehindRetained_iff_byPosition, ?_⟩
  · obtain ⟨linked, same⟩ := (accepted block).1 made
    rw [same]
    exact link_eq_none_of_head? linked
  · rintro first second rest rfl absent ⟨_, others⟩ block made
    have linked := ((accepted block).1 made).1
    rw [linkedBehindRetained_cons, linkedBehindRetained_cons, absent, Bool.or_false] at linked
    have second_linked := others second List.mem_cons_self
    rw [linked.2.1] at second_linked
    cases second_linked

end Block

namespace Sample

/-- A row that begins with a block without parts and has another one between two texts. -/
def gaps : PartRow :=
  [(none, .group .empty), (none, .text "a = 1"), (some .or, .group .empty),
   (some .and, .text "b = 2")]

/-- A row that is linked by position and begins with a block without parts. -/
def unopened : PartRow := [(none, .group .empty), (some .and, .text "a = 1")]

end Sample

/-- Between two texts a block without parts leaves no gap, and in front of them it counts as
nothing. -/
theorem Block.ofParts_eq_ok_iff_gaps :
    LinkedBehindRetained false Sample.gaps ∧
    ofParts Sample.gaps =
      .ok (.entry none (.text "a = 1") (.entry (some .and) (.text "b = 2") .empty)) ∧
    LinkedByPosition Sample.unopened ∧ ∀ block, ofParts Sample.unopened ≠ .ok block := by
  have linked : LinkedBehindRetained false Sample.gaps := by
    simp [Sample.gaps, linkedBehindRetained_cons, retained, vacuous, isEmpty]
  have opened : LinkedByPosition Sample.unopened := by decide
  obtain ⟨accepted, _⟩ := ofParts_eq_ok_iff Sample.gaps
  obtain ⟨_, _, _, _, refused⟩ := ofParts_eq_ok_iff Sample.unopened
  exact ⟨linked, (accepted _).2 ⟨linked, rfl⟩, opened, refused _ _ _ rfl rfl opened⟩

/-- Behind a block without parts, a part is refused that carries a link, and one is accepted that
carries none. -/
theorem Block.linked_part_refused :
    LinkedByPosition [(none, .group .empty), (some .and, .text "a = 1")] ∧
    ofParts [(none, .group .empty), (some .and, .text "a = 1")] =
      .error (.leadingCombinator .and) ∧
    ¬ LinkedByPosition [(none, .group .empty), (none, .text "a = 1")] ∧
    ofParts [(none, .group .empty), (none, .text "a = 1")] =
      .ok (.entry none (.text "a = 1") .empty) := by
  refine ⟨by decide, rfl, by decide, rfl⟩

end BoundSql
