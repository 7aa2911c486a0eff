import BoundSql.Value

/-!
# Drafts

A statement under construction: pieces of text with values between them, in the order
in which they will stand. Drafts are put together by `++`, and `separated` writes items
with a separator between neighbours. A finished draft is `canonical`: no empty text, and
no two neighbouring texts.
-/

namespace BoundSql

/-- A piece of a statement. -/
inductive Fragment where
  /-- Text that stands as it is. -/
  | text (text : String)
  /-- A value, for which a placeholder will stand. -/
  | param (value : Value)
deriving DecidableEq, Repr

/-- Pieces of a statement in textual order. -/
abbrev Draft := List Fragment

namespace Draft

/-- Nothing but text. -/
def text (s : String) : Draft := [.text s]

/-- Nothing but a value. -/
def param (v : Value) : Draft := [.param v]

/-- Every item by `write`, with a separator between neighbours. -/
def separated {α : Type} (separator : String) (write : α → Draft) : List α → Draft
  | [] => []
  | [item] => write item
  | item :: rest => write item ++ text separator ++ separated separator write rest

/-- The values of a draft, in textual order. -/
def values : Draft → List Value
  | [] => []
  | .text _ :: rest => values rest
  | .param v :: rest => v :: values rest

/-- A text in front of a draft, joined with its first piece if that is a text. -/
def prependText (s : String) (draft : Draft) : Draft :=
  if s.isEmpty then draft
  else match draft with
    | .text t :: more => .text (s ++ t) :: more
    | other => .text s :: other

/-- The same pieces without empty texts and with neighbouring texts joined. -/
def canonical : Draft → Draft
  | [] => []
  | .param v :: rest => .param v :: canonical rest
  | .text s :: rest => prependText s (canonical rest)

/-- How many values a draft binds. -/
def paramCount (draft : Draft) : Nat := draft.values.length

/-- The values of a composed draft are those of its parts, in order. -/
@[simp] theorem values_append (first second : Draft) :
    values (first ++ second) = values first ++ values second := by
  induction first with
  | nil => rfl
  | cons piece rest ih => cases piece <;> simp [values, ih]

/-- A text binds nothing. -/
@[simp] theorem values_text (s : String) : values (text s) = [] := rfl

/-- A value binds itself. -/
@[simp] theorem values_param (v : Value) : values (param v) = [v] := rfl

/-- Separators bind nothing. -/
@[simp] theorem values_separated {α : Type} (separator : String) (write : α → Draft)
    (items : List α) :
    values (separated separator write items) = items.flatMap fun item => values (write item) := by
  induction items with
  | nil => rfl
  | cons item rest ih =>
    cases rest with
    | nil => simp [separated]
    | cons next more => simp [separated, ih]

/-- Without a text a draft is as it was. -/
@[simp] theorem prependText_empty (draft : Draft) : prependText "" draft = draft := rfl

/-- A text in front of nothing stands alone. -/
theorem prependText_nil {s : String} (present : s ≠ "") : prependText s [] = [.text s] := by
  simp [prependText, present]

/-- A text in front of a value stands alone. -/
theorem prependText_param {s : String} (present : s ≠ "") (v : Value) (rest : Draft) :
    prependText s (.param v :: rest) = .text s :: .param v :: rest := by
  simp [prependText, present]

/-- A text in front of another one is joined with it. -/
theorem prependText_text {s : String} (present : s ≠ "") (t : String) (rest : Draft) :
    prependText s (.text t :: rest) = .text (s ++ t) :: rest := by
  simp [prependText, present]

/-- The canonical form of a draft that begins with a text. -/
theorem canonical_cons_text (s : String) (rest : Draft) :
    canonical (.text s :: rest) = prependText s (canonical rest) := rfl

/-- A text in front of a draft binds nothing. -/
@[simp] theorem values_prependText (s : String) (draft : Draft) :
    values (prependText s draft) = values draft := by
  by_cases vacant : s = ""
  · rw [vacant, prependText_empty]
  cases draft with
  | nil => rw [prependText_nil vacant]; rfl
  | cons piece rest =>
    cases piece with
    | text t => rw [prependText_text vacant]; rfl
    | param v => rw [prependText_param vacant]; rfl

/-- The canonical form binds the same values. -/
@[simp] theorem values_canonical (draft : Draft) : values (canonical draft) = values draft := by
  induction draft with
  | nil => rfl
  | cons piece rest ih =>
    cases piece with
    | param v => simp [canonical, values, ih]
    | text s => rw [canonical_cons_text, values_prependText, ih, values]

end Draft

end BoundSql
