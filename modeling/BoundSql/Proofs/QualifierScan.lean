import BoundSql.Proofs.Words
import BoundSql.Qualifier

/-!
# Removal of a qualifier as a scan

`Qualifier.removeFrom` goes from one occurrence of a qualifier to the next. `scan` decides
character by character: where the qualifier stands at a boundary it is skipped, and
everywhere else one character is copied. Both give the same text
(`removeFrom_eq_append_scan`), because a qualifier that is kept has no boundary inside it.

A scan can be cut at every character that neither belongs to a name nor is a point: no
qualifier reaches across it, and behind it the scan begins anew (`scan_append_mark`).
-/

namespace BoundSql.Qualifier

/-- Copies a text behind the character `last`, without the qualifier `name.` wherever it
stands at a boundary. -/
def scan (name : List Char) (last : Option Char) : List Char → List Char
  | [] => []
  | c :: rest =>
    if (name ++ ['.']).isPrefixOf (c :: rest) && atBoundary last then
      scan name last (rest.drop name.length)
    else c :: scan name (some c) rest
termination_by text => text.length
decreasing_by
  all_goals simp only [List.length_cons, List.length_drop]; omega

variable {name text rest before behind : List Char} {last last' : Option Char}

/-- Nothing is left of an empty text. -/
@[simp] theorem scan_nil : scan name last [] = [] := by simp [scan]

/-- A qualifier ends with a point, and consists of characters behind which no name starts. -/
theorem continuesWord_of_mem_qualifier (word : ∀ c ∈ name, continuesWord c = true) :
    ∀ c ∈ name ++ ['.'], continuesWord c = true := by
  intro c member
  rcases List.mem_append.1 member with letter | point
  · exact word c letter
  · rw [List.mem_singleton.1 point]
    decide

/-- What stands behind a qualifier at the beginning of a text. -/
theorem drop_qualifier {c : Char} {tail : List Char} (shape : name ++ ['.'] ++ tail = c :: rest) :
    rest.drop name.length = tail := by
  rw [← List.drop_succ_cons (a := c), ← shape]
  exact List.drop_left' (by simp)

/-- A qualifier at a boundary is skipped. -/
theorem scan_qualifier (boundary : atBoundary last = true) :
    scan name last (name ++ '.' :: rest) = scan name last rest := by
  have starts : (name ++ ['.']).isPrefixOf (name ++ '.' :: rest) = true :=
    List.isPrefixOf_iff_prefix.2 ⟨rest, by simp⟩
  cases shape : name ++ '.' :: rest with
  | nil => simp at shape
  | cons c more =>
    rw [shape] at starts
    rw [scan, starts, boundary]
    simp only [Bool.and_self, if_true]
    rw [drop_qualifier (by simpa using shape)]

/-- A character is copied where no qualifier stands at a boundary. -/
theorem scan_cons {c : Char} (free : (name ++ ['.']) <+: (c :: rest) → atBoundary last = false) :
    scan name last (c :: rest) = c :: scan name (some c) rest := by
  have copied : ((name ++ ['.']).isPrefixOf (c :: rest) && atBoundary last) = false := by
    cases starts : (name ++ ['.']).isPrefixOf (c :: rest) with
    | false => rfl
    | true => simpa using free (List.isPrefixOf_iff_prefix.1 starts)
  rw [scan, copied]
  simp

/-- Of the character before it a scan uses only whether a name may start behind it. -/
theorem scan_congr (same : atBoundary last = atBoundary last') :
    scan name last text = scan name last' text := by
  fun_induction scan name last text with
  | case1 => simp
  | case2 last c rest skips ih => rw [ih same, scan, ← same, if_pos skips]
  | case3 last c rest copies ih => rw [scan, ← same, if_neg copies]

/-- A scan leaves characters out and adds none. -/
theorem scan_sublist (name : List Char) (last : Option Char) (text : List Char) :
    (scan name last text).Sublist text := by
  fun_induction scan name last text with
  | case1 => exact .refl _
  | case2 last c rest skips ih => exact (ih.trans (List.drop_sublist _ _)).cons c
  | case3 last c rest copies ih => exact ih.cons_cons c

/-- A text without points is copied. -/
theorem scan_of_no_point (pointless : '.' ∉ text) : scan name last text = text := by
  induction text generalizing last with
  | nil => simp
  | cons c rest ih =>
    have free : ¬ (name ++ ['.']) <+: (c :: rest) := fun starts =>
      pointless (starts.subset (by simp))
    rw [scan_cons (fun starts => absurd starts free)]
    rw [ih fun later => pointless (List.mem_cons_of_mem c later)]

/-- Inside a word no name starts: it is copied up to its end. -/
theorem scan_word (inside : atBoundary last = false) (word : ∀ c ∈ before, continuesWord c = true) :
    scan name last (before ++ rest) =
      before ++ scan name (before.getLast?.or last) rest := by
  induction before generalizing last with
  | nil => simp
  | cons c more ih =>
    have next : atBoundary (some c) = false := by
      simp [atBoundary, word c List.mem_cons_self]
    rw [List.cons_append, scan_cons fun _ => inside,
      ih next fun x member => word x (List.mem_cons_of_mem c member)]
    cases more <;> simp [List.getLast?_cons]

/-- Behind a mark a scan begins anew. -/
theorem atBoundary_mark {mark : Char} (outside : continuesWord mark = false) :
    atBoundary (some mark) = atBoundary none := by
  simp [atBoundary, outside]

/-- No qualifier reaches across a mark. -/
theorem prefix_before_mark {needle : List Char} {mark : Char} (absent : mark ∉ needle)
    (starts : needle <+: text ++ mark :: rest) : needle <+: text := by
  have upTo : text ++ [mark] <+: text ++ mark :: rest := ⟨rest, by simp⟩
  rcases Nat.lt_or_ge text.length needle.length with longer | fits
  · have reaches := List.prefix_of_prefix_length_le upTo starts (by simpa using Nat.succ_le_of_lt longer)
    exact absurd (reaches.subset (by simp)) absent
  · exact List.prefix_of_prefix_length_le starts ⟨mark :: rest, rfl⟩ fits

/-- A scan can be cut at a mark. -/
theorem scan_append_mark {mark : Char} (word : ∀ c ∈ name, continuesWord c = true)
    (outside : continuesWord mark = false) :
    scan name last (text ++ mark :: rest) = scan name last text ++ mark :: scan name none rest := by
  have absent : mark ∉ name ++ ['.'] := fun member => by
    simp [continuesWord_of_mem_qualifier word mark member] at outside
  fun_induction scan name last text with
  | case1 last =>
    have free : ¬ (name ++ ['.']) <+: (mark :: rest) := by
      intro starts
      have nothing : (name ++ ['.']) <+: [] := prefix_before_mark absent starts
      simp at nothing
    rw [List.nil_append, scan_cons fun starts => absurd starts free]
    rw [scan_congr (atBoundary_mark outside)]
    rfl
  | case2 last c more skips ih =>
    simp only [Bool.and_eq_true] at skips
    obtain ⟨tail, shape⟩ := List.isPrefixOf_iff_prefix.1 skips.1
    rw [drop_qualifier shape] at ih ⊢
    rw [← ih, ← shape]
    simp only [List.append_assoc, List.singleton_append]
    exact scan_qualifier skips.2
  | case3 last c more copies ih =>
    have free : (name ++ ['.']) <+: c :: (more ++ mark :: rest) → atBoundary last = false := by
      intro starts
      have within : (name ++ ['.']) <+: (c :: more) := prefix_before_mark absent starts
      simpa [List.isPrefixOf_iff_prefix.2 within] using copies
    rw [List.cons_append, scan_cons free, ih]
    rfl

/-- A mark at the beginning is copied. -/
theorem scan_mark_cons {mark : Char} (word : ∀ c ∈ name, continuesWord c = true)
    (outside : continuesWord mark = false) :
    scan name last (mark :: rest) = mark :: scan name none rest := by
  have cut : scan name last ([] ++ mark :: rest) = scan name last [] ++ mark :: scan name none rest :=
    scan_append_mark word outside
  simpa using cut

/-- A text without occurrences is copied. -/
theorem scan_of_cut?_eq_none (absent : cut? (name ++ ['.']) text = none) :
    scan name last text = text := by
  induction text generalizing last with
  | nil => simp
  | cons c rest ih =>
    simp only [cut?] at absent
    split at absent
    · cases absent
    · next other =>
      have free : ¬ (name ++ ['.']) <+: (c :: rest) := fun starts =>
        other (List.isPrefixOf_iff_prefix.2 starts)
      rw [scan_cons fun starts => absurd starts free]
      rw [ih (by simpa using absent)]

/-- Up to the first occurrence a text is copied. -/
theorem scan_of_cut?_eq_some (found : cut? (name ++ ['.']) text = some (before, behind)) :
    scan name last text =
      before ++ scan name (before.getLast?.or last) (name ++ '.' :: behind) := by
  induction text generalizing last before with
  | nil => simp [cut?] at found
  | cons c rest ih =>
    simp only [cut?] at found
    split at found
    · next starts =>
      obtain ⟨tail, shape⟩ := List.isPrefixOf_iff_prefix.1 starts
      cases found
      rw [← shape]
      have behind : ((name ++ ['.']) ++ tail).drop (name ++ ['.']).length = tail :=
        List.drop_left' rfl
      rw [behind]
      simp
    · next other =>
      have free : ¬ (name ++ ['.']) <+: (c :: rest) := fun starts =>
        other (List.isPrefixOf_iff_prefix.2 starts)
      cases deeper : cut? (name ++ ['.']) rest with
      | none => simp [deeper] at found
      | some halves =>
        obtain ⟨before', behind'⟩ := halves
        simp only [deeper, Option.map_some, Option.some.injEq, Prod.mk.injEq] at found
        obtain ⟨rfl, rfl⟩ := found
        rw [scan_cons fun starts => absurd starts free, ih deeper]
        cases before' <;> simp [List.getLast?_cons]

/-- The last character of what has been kept, up to an occurrence. -/
theorem last_kept {kept : List Char} :
    (before.getLast? <|> kept.getLast?) = before.getLast?.or kept.getLast? := by
  cases before.getLast? <;> rfl

/-- The removal of a qualifier is a scan of the text behind what has been kept. -/
theorem removeFrom_eq_append_scan (word : ∀ c ∈ name, continuesWord c = true)
    (kept text : List Char) :
    removeFrom name kept text = kept ++ scan name kept.getLast? text := by
  fun_induction removeFrom name kept text with
  | case1 kept text absent => rw [scan_of_cut?_eq_none absent]
  | case2 kept text before behind found boundary ih =>
    rw [last_kept] at boundary
    rw [ih, scan_of_cut?_eq_some found, scan_qualifier boundary, List.getLast?_append]
    simp
  | case3 kept text before behind found inside ih =>
    rw [last_kept] at inside
    have within : atBoundary (before.getLast?.or kept.getLast?) = false := by simpa using inside
    rw [ih, scan_of_cut?_eq_some found, show name ++ '.' :: behind = (name ++ ['.']) ++ behind by simp,
      scan_word within (continuesWord_of_mem_qualifier word)]
    simp

/-- What may continue a name has no boundary behind it. -/
theorem continuesWord_of_continuesName {c : Char} (continues : continuesName c = true) :
    continuesWord c = true := by
  simp only [continuesName, Bool.or_eq_true] at continues
  simp only [continuesWord, Bool.or_eq_true]
  exact Or.inl continues

/-- The characters of a word have no boundary behind them. -/
theorem continuesWord_of_isWord {name : String} (word : IsWord name) :
    ∀ c ∈ name.toList, continuesWord c = true :=
  fun c member => continuesWord_of_continuesName (word.continues c member)

/-- The qualifier of a table is removed by a scan from the beginning of the text. -/
theorem toList_remove (name : TableName) (text : String) :
    (remove name.text text).toList = scan name.text.toList none text.toList := by
  rw [remove, String.toList_ofList, removeFrom_eq_append_scan (continuesWord_of_isWord name.isWord)]
  rfl

/-- Before a point a word is the qualifier or another word. -/
theorem eq_of_prefix_point {column : List Char} {other : TableName} {name : TableName}
    (starts : name.text.toList ++ ['.'] <+: other.text.toList ++ '.' :: column) :
    name = other := by
  obtain ⟨rest, same⟩ := starts
  rw [List.append_assoc, List.singleton_append] at same
  have cut := cut_at_mark name.isWord.continues other.isWord.continues (by decide) (by decide) same
  exact TableName.eq_of_toList cut.1

/-- Another qualifier is kept, and the column behind it too. -/
theorem scan_other_word (name other : TableName) (column : ColumnName) (different : other ≠ name) :
    scan name.text.toList none (other.text.toList ++ '.' :: column.text.toList) =
      other.text.toList ++ '.' :: column.text.toList := by
  have inside : ∀ c ∈ other.text.toList ++ '.' :: column.text.toList, continuesWord c = true := by
    intro c member
    rcases List.mem_append.1 member with left | right
    · exact continuesWord_of_isWord other.isWord c left
    · rcases List.mem_cons.1 right with rfl | later
      · decide
      · exact continuesWord_of_isWord column.isWord c later
  have free : ¬ name.text.toList ++ ['.'] <+: other.text.toList ++ '.' :: column.text.toList :=
    fun starts => different (eq_of_prefix_point starts).symm
  cases shape : other.text.toList ++ '.' :: column.text.toList with
  | nil => simp at shape
  | cons c rest =>
    rw [shape] at inside free
    have first : atBoundary (some c) = false := by
      simp [atBoundary, inside c List.mem_cons_self]
    have copied : scan name.text.toList (some c) (rest ++ []) = rest ++ _ :=
      scan_word first fun x member => inside x (List.mem_cons_of_mem c member)
    rw [scan_cons fun starts => absurd starts free]
    simpa using copied

end BoundSql.Qualifier
