import BoundSql.Draft

/-!
# Writers

A draft as it grows. What is written stands behind what is there: a text goes on the last
piece where that is a text, and nothing is written for an empty text. A writer is told by
calls what to write, and the items of a separated row are written by calls of their own
(`WriterCall`).
-/

namespace BoundSql

namespace Draft

/-- Writes a text behind a draft: on its last piece if that is a text, else as a new one. -/
def pushText (s : String) (written : Draft) : Draft :=
  if s.isEmpty then written
  else match written.getLast? with
    | some (.text last) => written.dropLast ++ text (last ++ s)
    | _ => written ++ text s

/-- Writes a value behind a draft. -/
def pushParam (v : Value) (written : Draft) : Draft := written ++ param v

/-- Writes an item behind a draft, after a separator if there are items before it. -/
def pushItem {α : Type} (separator : String) (write : α → Draft → Draft) (written : Draft) :
    α × Nat → Draft
  | (item, before) => write item (if 0 < before then written.pushText separator else written)

/-- Writes items behind a draft, with a separator between neighbours. -/
def pushSeparated {α : Type} (separator : String) (write : α → Draft → Draft)
    (items : List α) (written : Draft) : Draft :=
  items.zipIdx.foldl (pushItem separator write) written

/-- For an empty text nothing is written. -/
@[simp] theorem pushText_empty (written : Draft) : pushText "" written = written := rfl

/-- A text is joined with a text that stands last. -/
theorem pushText_text (s : String) (front : Draft) (t : String) :
    pushText s (front ++ text t) = front ++ text (t ++ s) := by
  by_cases vacant : s = ""
  · simp [vacant]
  · simp [pushText, vacant, text]

/-- A text that is not empty is a piece of its own where no text stands last. -/
theorem pushText_apart {s : String} (present : s ≠ "") {written : Draft}
    (other : ∀ t, written.getLast? ≠ some (.text t)) : pushText s written = written ++ text s := by
  cases last : written.getLast? with
  | none => simp [pushText, present, last]
  | some piece =>
    cases piece with
    | text t => exact absurd last (other t)
    | param v => simp [pushText, present, last]

/-- A text stands last in a draft, or none does. -/
theorem last_cases (written : Draft) :
    (∃ front t, written = front ++ text t) ∨ ∀ t, written.getLast? ≠ some (.text t) := by
  by_cases meets : ∃ t, written.getLast? = some (.text t)
  · obtain ⟨t, last⟩ := meets
    obtain ⟨front, shape⟩ := List.getLast?_eq_some_iff.1 last
    exact .inl ⟨front, t, shape⟩
  · exact .inr (not_exists.1 meets)

end Draft

/-- A call of a writer. -/
inductive WriterCall where
  /-- Writes a text. -/
  | text (text : String)
  /-- Writes a value. -/
  | param (value : Value)
  /-- Writes items with a separator between neighbours, each by calls of its own. -/
  | separated (separator : String) (items : List (List WriterCall))
deriving Repr

namespace WriterCall

mutual

/-- Does what a call tells. -/
def perform : WriterCall → Draft → Draft
  | .text s => Draft.pushText s
  | .param v => Draft.pushParam v
  | .separated separator items =>
    Draft.pushSeparated separator (fun write => write) (performEach items)

/-- Does what calls tell, one after the other. -/
def performAll : List WriterCall → Draft → Draft
  | [], written => written
  | call :: rest, written => performAll rest (call.perform written)

/-- For every item, what its calls tell. -/
def performEach : List (List WriterCall) → List (Draft → Draft)
  | [] => []
  | calls :: rest => performAll calls :: performEach rest

end

/-- The draft that calls write from the start. -/
def written (calls : List WriterCall) : Draft := performAll calls []

end WriterCall

end BoundSql
