import BoundSql.QueryError

/-!
# The characters of names

A name stands bare between marks such as blanks, points and parentheses, none of which a
name may contain. So a name ends where the first such mark stands, and two texts that
each start with a name and a mark behind it can be cut up in one way only.
-/

namespace BoundSql

/-- Letters by their code points. -/
theorem isAlpha_iff_toNat {c : Char} :
    c.isAlpha = true ↔ 65 ≤ c.toNat ∧ c.toNat ≤ 90 ∨ 97 ≤ c.toNat ∧ c.toNat ≤ 122 := by
  have upper : c.isUpper = true ↔ 65 ≤ c.toNat ∧ c.toNat ≤ 90 := by
    change decide (c.val ≥ 'A'.val ∧ c.val ≤ 'Z'.val) = true ↔ _
    simp [UInt32.le_iff_toNat_le, Char.toNat_val]
  have lower : c.isLower = true ↔ 97 ≤ c.toNat ∧ c.toNat ≤ 122 := by
    change (decide (c.val ≥ 'a'.val) && decide (c.val ≤ 'z'.val)) = true ↔ _
    simp [UInt32.le_iff_toNat_le, Char.toNat_val]
  rw [← upper, ← lower]
  exact Bool.or_eq_true_iff

/-- All characters of a word may continue a name. -/
theorem IsWord.continues {name : String} (word : IsWord name) :
    ∀ c ∈ name.toList, continuesName c = true := by
  obtain ⟨first, rest, shape, starts, clean⟩ := word
  rw [shape]
  intro c inside
  rcases List.mem_cons.1 inside with rfl | later
  · exact continuesName_of_startsName starts
  · exact clean c later

/-- A mark that is not written in names stands in no word. -/
theorem IsWord.not_mem {name : String} (word : IsWord name) {mark : Char}
    (outside : continuesName mark = false) : mark ∉ name.toList := by
  intro inside
  have continued := word.continues mark inside
  rw [outside] at continued
  cases continued

/-- A word has a first character. -/
theorem IsWord.toList_ne_nil {name : String} (word : IsWord name) : name.toList ≠ [] := by
  obtain ⟨first, rest, shape, _⟩ := word
  simp [shape]

/-- The name of a column is a word. -/
theorem ColumnName.isWord (name : ColumnName) : IsWord name.text :=
  (columnFault?_eq_none_iff.1 name.legal).1

/-- The name of a table is a word. -/
theorem TableName.isWord (name : TableName) : IsWord name.text :=
  (columnFault?_eq_none_iff.1 (tableFault?_eq_none_iff.1 name.legal).1).1

/-- A name that is read keeps its text. -/
theorem ColumnName.text_of_read {text : String} {name : ColumnName} (made : read text = .ok name) :
    name.text = text := by
  unfold read parse at made
  split at made
  · cases made
    rfl
  · cases made

/-- A name that is read keeps its text. -/
theorem TableName.text_of_read {text : String} {name : TableName} (made : read text = .ok name) :
    name.text = text := by
  unfold read parse at made
  split at made
  · cases made
    rfl
  · cases made

/-- Column names with the same characters are equal. -/
theorem ColumnName.eq_of_toList {first second : ColumnName}
    (same : first.text.toList = second.text.toList) : first = second := by
  cases first
  cases second
  simpa using String.toList_injective same

/-- Table names with the same characters are equal. -/
theorem TableName.eq_of_toList {first second : TableName}
    (same : first.text.toList = second.text.toList) : first = second := by
  cases first
  cases second
  simpa using String.toList_injective same

/-- Two lists that start with elements of one class, each with a mark outside the class
behind them, are cut up in one way only. -/
theorem cut_at_mark {α : Type} {belongs : α → Prop} {word word' rest rest' : List α}
    {mark mark' : α}
    (inside : ∀ c ∈ word, belongs c) (inside' : ∀ c ∈ word', belongs c)
    (outside : ¬ belongs mark) (outside' : ¬ belongs mark')
    (same : word ++ mark :: rest = word' ++ mark' :: rest') :
    word = word' ∧ mark = mark' ∧ rest = rest' := by
  induction word generalizing word' with
  | nil =>
    cases word' with
    | nil => simpa using same
    | cons c more =>
      simp only [List.nil_append, List.cons_append, List.cons.injEq] at same
      exact absurd (same.1 ▸ inside' c List.mem_cons_self) outside
  | cons c more ih =>
    cases word' with
    | nil =>
      simp only [List.nil_append, List.cons_append, List.cons.injEq] at same
      exact absurd (same.1 ▸ inside c List.mem_cons_self) outside'
    | cons c' more' =>
      simp only [List.cons_append, List.cons.injEq] at same
      obtain ⟨rfl, later⟩ := same
      have tails := ih (fun x member => inside x (List.mem_cons_of_mem _ member))
        (fun x member => inside' x (List.mem_cons_of_mem _ member)) later
      exact ⟨by rw [tails.1], tails.2⟩

end BoundSql
