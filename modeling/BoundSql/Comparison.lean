import BoundSql.Value

/-!
# Comparisons

The operators of a condition, the number of values each takes, and the operands they are
applied to.
-/

namespace BoundSql

/-- How many values an operator takes. -/
inductive Arity where
  /-- No value. -/
  | none
  /-- One value. -/
  | single
  /-- One value or more. -/
  | list
deriving DecidableEq, Repr

/-- The name of an arity in messages. -/
def Arity.label : Arity → String
  | .none => "None"
  | .single => "Single"
  | .list => "List"

/-- The operators of a condition. -/
inductive Comparison where
  /-- The column equals the value. -/
  | equal
  /-- The column differs from the value. -/
  | notEqual
  /-- The column is greater. -/
  | greater
  /-- The column is greater or equal. -/
  | greaterOrEqual
  /-- The column is less. -/
  | less
  /-- The column is less or equal. -/
  | lessOrEqual
  /-- The column matches the pattern. -/
  | like
  /-- The column does not match the pattern. -/
  | notLike
  /-- The column is among the values. -/
  | among
  /-- The column is not among the values. -/
  | notAmong
  /-- The column is absent. -/
  | isNull
  /-- The column is present. -/
  | isNotNull
deriving DecidableEq, Repr

namespace Comparison

/-- The operator in SQL. -/
def sql : Comparison → String
  | .equal => "="
  | .notEqual => "!="
  | .greater => ">"
  | .greaterOrEqual => ">="
  | .less => "<"
  | .lessOrEqual => "<="
  | .like => "LIKE"
  | .notLike => "NOT LIKE"
  | .among => "IN"
  | .notAmong => "NOT IN"
  | .isNull => "IS NULL"
  | .isNotNull => "IS NOT NULL"

/-- How many values the operator takes. -/
def arity : Comparison → Arity
  | .among | .notAmong => .list
  | .isNull | .isNotNull => .none
  | _ => .single

end Comparison

/-- What a column is compared with. -/
inductive Operand where
  /-- Nothing. -/
  | none
  /-- One value. -/
  | single (value : Value)
  /-- Several values. -/
  | list (values : List Value)
deriving DecidableEq, Repr

namespace Operand

/-- The arity of an operand. -/
def arity : Operand → Arity
  | .none => .none
  | .single _ => .single
  | .list _ => .list

/-- The values of an operand, in order. -/
def values : Operand → List Value
  | .none => []
  | .single v => [v]
  | .list vs => vs

/-- Operands agree if they have one arity and their values agree. -/
def agrees (x y : Operand) : Bool :=
  x.arity == y.arity && Value.listAgrees x.values y.values

end Operand

/-- An operator admits an operand of its own arity, and no empty list. -/
def Comparison.Admits (comparison : Comparison) (operand : Operand) : Prop :=
  operand.arity = comparison.arity ∧ operand ≠ .list []

instance (comparison : Comparison) (operand : Operand) :
    Decidable (comparison.Admits operand) :=
  inferInstanceAs (Decidable (_ ∧ _))

end BoundSql
