import BoundSql.Instant.Rfc3339
import BoundSql.Json.Text
import BoundSql.Value

/-!
# Values as JSON

A value is written without any mark of its kind: an instant is a string in RFC 3339,
and a floating-point number that is not finite is null.
-/

namespace BoundSql.Value

/-- The compact JSON text of a value. -/
def json : Value → String
  | .null => "null"
  | .bool b => Json.boolean b
  | .integer n => toString n.toInt
  | .float x => Json.number x
  | .text s => Json.quoted s
  | .instant t => Json.quoted t.rfc3339

end BoundSql.Value
