import BoundSql.Binary64
import BoundSql.Instant

/-!
# Bound values

The closed set of values a statement can bind, the types that widen into it, and the
comparison of values. `Value.agrees` compares as the values themselves compare: kinds
never mix, and floating-point numbers compare as numbers. Structural equality (`=`) is
finer at zero and coarser at values that are not numbers.
-/

namespace BoundSql

/-- A value a condition or a column can carry. -/
inductive Value where
  /-- The absent value. -/
  | null
  /-- A truth value. -/
  | bool (value : Bool)
  /-- A signed integer of 64 bits. -/
  | integer (value : Int64)
  /-- A floating-point number. -/
  | float (value : Binary64)
  /-- A text. -/
  | text (value : String)
  /-- A point in time. -/
  | instant (value : Instant)
deriving DecidableEq, Repr

namespace Value

/-- Whether the value is the absent one. -/
def isNull : Value → Bool
  | .null => true
  | _ => false

/-- Equality of values: of one kind, and equal as members of that kind. -/
def agrees : Value → Value → Bool
  | .float x, .float y => x.agrees y
  | x, y => x == y

/-- Lists of values agree if they have one length and agree place by place. -/
def listAgrees : List Value → List Value → Bool
  | [], [] => true
  | x :: xs, y :: ys => x.agrees y && listAgrees xs ys
  | _, _ => false

end Value

/-- The types whose members can be bound. -/
class ToValue (α : Type) where
  /-- The value that is bound. -/
  toValue : α → Value

export ToValue (toValue)

instance : ToValue Value := ⟨id⟩
instance : ToValue Bool := ⟨.bool⟩
instance : ToValue Int32 := ⟨fun n => .integer n.toInt64⟩
instance : ToValue UInt32 := ⟨fun n => .integer (Int64.ofNat n.toNat)⟩
instance : ToValue Int64 := ⟨.integer⟩
instance : ToValue Binary64 := ⟨.float⟩
instance : ToValue String := ⟨.text⟩
instance : ToValue Instant := ⟨.instant⟩

/-- What may be missing is bound as the absent value when it is. -/
instance {α : Type} [ToValue α] : ToValue (Option α) := ⟨fun value => value.elim .null toValue⟩

end BoundSql
