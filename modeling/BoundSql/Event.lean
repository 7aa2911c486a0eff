import BoundSql.Join
import BoundSql.Settings

/-!
# Events

What is reported while statements are built: the joins of a selection, and the settings
a session starts with. Events are data; nothing about a statement depends on them.
-/

namespace BoundSql

/-- Something that is reported. -/
inductive Event where
  /-- The joins of a selection. -/
  | joins (counts : JoinCounts)
  /-- A selection has as many one-to-many joins as it is warned about. -/
  | manyJoins (oneToMany : Nat)
  /-- A session starts with these settings. -/
  | configured (settings : Settings)
deriving DecidableEq, Repr

namespace Event

/-- The severity of an event. -/
def level : Event → String
  | .joins _ => "INFO"
  | .manyJoins _ => "WARN"
  | .configured _ => "DEBUG"

/-- The topic of an event. -/
def topic : Event → String
  | .joins _ | .manyJoins _ => "sqlfacade::joins"
  | .configured _ => "sqlfacade::core"

/-- The sentence of an event. -/
def message : Event → String
  | .joins counts =>
    "Statement contains " ++ toString counts.total ++ " joins (" ++ toString counts.left ++
      " left-joins, " ++ toString counts.inner ++ " inner-joins, " ++
      toString counts.oneToMany ++ " one-to-many, " ++ toString counts.oneToOne ++ " one-to-one)"
  | .manyJoins oneToMany =>
    "Safe amount of one-to-many joins (" ++ toString oneToMany ++ ") exceeded"
  | .configured _ => "sqlfacade configured"

/-- The name of a placeholder style in events. -/
def styleLabel : PlaceholderStyle → String
  | .question => "Question"
  | .dollar => "Dollar"

/-- The further fields of an event, as text. -/
def fields : Event → List (String × String)
  | .configured settings =>
    [("placeholder_style", styleLabel settings.style),
     ("one_to_many_join_warning", toString settings.warning)]
  | _ => []

end Event

/-- The report of the joins of a statement: nothing without joins, else their counts, and
a warning once the one-to-many joins reach the threshold. -/
def JoinCounts.report (counts : JoinCounts) (threshold : Nat) : List Event :=
  if counts.total = 0 then []
  else .joins counts ::
    if threshold ≤ counts.oneToMany then [.manyJoins counts.oneToMany] else []

end BoundSql
