import BoundSql.Draft
import BoundSql.Value.Json

/-!
# Queries

A finished statement: its text with a placeholder for every value, and the values in the
order of their placeholders. `Draft.bake` walks the pieces of a draft once, so the n-th
placeholder belongs to the n-th value.
-/

namespace BoundSql

/-- How the place of a value is marked in the text of a statement. -/
inductive PlaceholderStyle where
  /-- A question mark for every value. -/
  | question
  /-- A dollar sign and the number of the value, counted from one. -/
  | dollar
deriving DecidableEq, Repr

/-- The placeholder of the value with the given number. -/
def PlaceholderStyle.mark : PlaceholderStyle → Nat → String
  | .question, _ => "?"
  | .dollar, number => "$" ++ toString number

/-- A finished statement. -/
structure Query where
  /-- The text, with placeholders. -/
  text : String
  /-- The values, in the order of their placeholders. -/
  params : List Value
deriving DecidableEq, Repr

namespace Draft

/-- The texts of the pieces, where `bound` values already stand before them. -/
def marked (style : PlaceholderStyle) (bound : Nat) : Draft → List String
  | [] => []
  | .text s :: rest => s :: marked style bound rest
  | .param _ :: rest => style.mark (bound + 1) :: marked style (bound + 1) rest

/-- The finished statement of a draft. -/
def bake (style : PlaceholderStyle) (draft : Draft) : Query :=
  { text := String.join (marked style 0 draft)
    params := draft.values }

/-- The texts of a composed draft, numbered through. -/
theorem marked_append (style : PlaceholderStyle) (bound : Nat) (first second : Draft) :
    marked style bound (first ++ second) =
      marked style bound first ++ marked style (bound + first.paramCount) second := by
  induction first generalizing bound with
  | nil => simp [marked, paramCount, values]
  | cons piece rest ih =>
    cases piece with
    | text s => simp [marked, ih, paramCount, values]
    | param v =>
      simp only [List.cons_append, marked, ih, paramCount, values, List.length_cons]
      rw [Nat.add_right_comm, Nat.add_assoc]

/-- Both styles bind the same values. -/
@[simp] theorem params_bake (style : PlaceholderStyle) (draft : Draft) :
    (draft.bake style).params = draft.values := rfl

end Draft

namespace Query

/-- How many placeholders a statement has. -/
def placeholderCount (query : Query) : Nat := query.params.length

/-- The compact JSON text of a statement. -/
def json (query : Query) : String :=
  Json.object
    [("query", Json.quoted query.text), ("params", Json.list (query.params.map Value.json))]

end Query

end BoundSql
