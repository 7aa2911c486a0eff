/-!
# Instants

A point in time in coordinated universal time, with the resolution of a nanosecond.
-/

namespace BoundSql

/-- A point in time, counted from the beginning of 1970. -/
structure Instant where
  /-- Whole seconds, negative before 1970. -/
  seconds : Int
  /-- Nanoseconds after that second. -/
  nanoseconds : Fin 1000000000
deriving DecidableEq, Repr

end BoundSql
