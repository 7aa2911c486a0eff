/-!
# Combinators

The words that link the parts of a filter.
-/

namespace BoundSql

/-- How a part is linked to the one before it. -/
inductive Combinator where
  /-- Both hold. -/
  | and
  /-- At least one holds. -/
  | or
deriving DecidableEq, Repr

/-- Parts are linked with AND unless something else is asked for. -/
instance : Inhabited Combinator := ⟨.and⟩

/-- The combinator in SQL. -/
def Combinator.sql : Combinator → String
  | .and => "AND"
  | .or => "OR"

end BoundSql
