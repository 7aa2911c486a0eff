import BoundSql.Proofs.Literals

/-!
# Texts without a qualifier

The removal of a qualifier jumps from one occurrence to the next. What it comes to is said by a
reader that takes one decision after the other (`Read`): where the qualifier stands ahead and what
was emitted so far ends at a boundary, the qualifier is skipped; anywhere else one character is
copied. The reader has one decision to take at each place, so it ends with one text only, which is
the text without the qualifier (`read_iff_eq_scan`).

Characters that a skipped qualifier stood between come together in what is emitted. No qualifier
comes about in this way: behind a skipped one the reader is at the same boundary as before it, so a
qualifier whose first character is copied there would have stood ahead as a whole, and been skipped
itself (`boundary_of_scan_eq`). So a second removal finds nothing to remove.
-/

namespace BoundSql.Qualifier

variable {name text emitted rest : List Char} {last : Option Char}

/-- How far a reader has come that copies a text without the qualifier `name.`: what it has emitted,
and what it has still to read. -/
inductive Read (name text : List Char) : List Char → List Char → Prop where
  /-- Nothing is emitted, and all is still to be read. -/
  | start : Read name text [] text
  /-- A qualifier stands ahead, at a boundary: it is skipped. -/
  | skip {emitted rest : List Char} (before : Read name text emitted (name ++ '.' :: rest))
      (boundary : atBoundary emitted.getLast? = true) : Read name text emitted rest
  /-- No qualifier stands ahead, or not at a boundary: one character is copied. -/
  | copy {emitted rest : List Char} {c : Char} (before : Read name text emitted (c :: rest))
      (other : ¬ ((name ++ ['.']) <+: (c :: rest) ∧ atBoundary emitted.getLast? = true)) :
    Read name text (emitted ++ [c]) rest

/-- Where a qualifier is not skipped, a scan copies one character as well. -/
theorem scan_of_not_skipped {c : Char}
    (other : ¬ ((name ++ ['.']) <+: (c :: rest) ∧ atBoundary last = true)) :
    scan name last (c :: rest) = c :: scan name (some c) rest :=
  scan_cons fun starts => by simpa [starts] using other

/-- At every place, what is emitted and the scan of what is still to be read are the scanned
text. -/
theorem Read.append_scan (read : Read name text emitted rest) :
    emitted ++ scan name emitted.getLast? rest = scan name none text := by
  induction read with
  | start => rfl
  | skip before boundary ih => rw [← ih, scan_qualifier boundary]
  | copy before other ih =>
    rw [← ih, scan_of_not_skipped other, List.getLast?_concat, List.append_assoc,
      List.singleton_append]

/-- From every place a reader gets to the end. -/
theorem Read.finish (read : Read name text emitted rest) :
    Read name text (emitted ++ scan name emitted.getLast? rest) [] := by
  generalize ends : emitted.getLast? = last
  fun_induction scan name last rest generalizing emitted with
  | case1 last => simpa using read
  | case2 last c rest skips ih =>
    obtain ⟨starts, boundary⟩ := Bool.and_eq_true_iff.1 skips
    obtain ⟨tail, shape⟩ := List.isPrefixOf_iff_prefix.1 starts
    rw [drop_qualifier shape] at ih ⊢
    rw [← shape, List.append_assoc, List.singleton_append] at read
    exact ih (.skip read (by rw [ends]; exact boundary)) ends
  | case3 last c rest copies ih =>
    have other : ¬ ((name ++ ['.']) <+: (c :: rest) ∧ atBoundary emitted.getLast? = true) := by
      rwa [ends, ← List.isPrefixOf_iff_prefix, ← Bool.and_eq_true]
    have later := ih (.copy read other) List.getLast?_concat
    rwa [List.append_assoc, List.singleton_append] at later

/-- A reader ends with the scanned text, and with no other. -/
theorem read_iff_eq_scan {result : List Char} :
    Read name text result [] ↔ result = scan name none text := by
  constructor
  · intro read
    simpa using read.append_scan
  · rintro rfl
    exact Read.start.finish

/-- Behind the first character of a word everything is copied: the word that a scan goes on with,
the text goes on with. -/
theorem prefix_of_prefix_copied {word : List Char} {c : Char}
    (continues : ∀ x ∈ word, continuesWord x = true) (starts : word <+: c :: scan name (some c) rest) :
    word <+: c :: rest := by
  induction word generalizing c rest with
  | nil => exact List.nil_prefix
  | cons first more ih =>
    obtain ⟨rfl, later⟩ := List.cons_prefix_cons.1 starts
    refine List.cons_prefix_cons.2 ⟨rfl, ?_⟩
    have inside : atBoundary (some first) = false := by
      simp [atBoundary, continues first List.mem_cons_self]
    cases rest with
    | nil => simpa using later
    | cons next behind =>
      rw [scan_cons fun _ => inside] at later
      exact ih (fun x member => continues x (List.mem_cons_of_mem first member)) later

/-- A qualifier in a scanned text has no boundary before it. -/
theorem boundary_of_scan_eq (word : ∀ c ∈ name, continuesWord c = true) {before behind : List Char}
    (found : scan name last text = before ++ (name ++ '.' :: behind)) :
    atBoundary (before.getLast?.or last) = false := by
  fun_induction scan name last text generalizing before with
  | case1 last => simp at found
  | case2 last c rest skips ih => exact ih found
  | case3 last c rest copies ih =>
    cases before with
    | nil =>
      -- the first character of the qualifier is copied; from there on the reader is inside a word
      have ends : (name ++ ['.']) <+: (c :: scan name (some c) rest) := ⟨behind, by simp [found]⟩
      have ahead : (name ++ ['.']) <+: (c :: rest) :=
        prefix_of_prefix_copied (continuesWord_of_mem_qualifier word) ends
      simpa [List.isPrefixOf_iff_prefix.2 ahead] using copies
    | cons first more =>
      obtain ⟨rfl, later⟩ := List.cons_eq_cons.1 found
      have inner := ih later
      cases more <;> simpa [List.getLast?_cons] using inner

/-- Where a qualifier was removed, it stands at no boundary. -/
theorem not_occurs_remove (name : TableName) (text : String) :
    ¬ Occurs name.text.toList (remove name.text text).toList := by
  rintro ⟨before, behind, found, boundary⟩
  rw [toList_remove] at found
  have inside := boundary_of_scan_eq (continuesWord_of_isWord name.isWord) found
  rw [Option.or_none, boundary] at inside
  cases inside

/-- The removal of the qualifier of a table comes to what the reader ends with, and to nothing else.
It leaves no qualifier at a boundary, so that it leaves its own results as they are. -/
theorem remove_exact (name : TableName) (text : String) :
    (∀ result : String, Read name.text.toList text.toList result.toList [] ↔
      result = remove name.text text) ∧
    ¬ Occurs name.text.toList (remove name.text text).toList ∧
    remove name.text (remove name.text text) = remove name.text text := by
  refine ⟨fun result => ?_, not_occurs_remove name text, ?_⟩
  · rw [read_iff_eq_scan, ← toList_remove, String.toList_inj]
  · exact remove_eq_self_iff.2 (not_occurs_remove name text)

/-- Two qualifiers in a row are removed, since both stand at the boundary before the first. One inside
a word is kept, where only ASCII letters belong to words. -/
example : remove "u" "u.u.id = mu.id AND üu.id = (u.id)" = "id = mu.id AND üid = (id)" := by
  decide +kernel

end BoundSql.Qualifier
