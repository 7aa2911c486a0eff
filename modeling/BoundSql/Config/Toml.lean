import BoundSql.Config
import BoundSql.Json.Text
import BoundSql.Toml.Document

/-!
# Configuration files

A configuration is kept in two sections, `query` and `diagnostics`. What a document leaves out
has its default, and what it says under other keys is ignored, where every number has to
have a value all the same. A section may also be written as a list of its values in order,
whose further items are not looked at, and a style as a table with the name of the style
as its only key.
-/

namespace BoundSql.Config

open Toml (Node Entries)

/-- The name of a placeholder style in configuration files. -/
def styleName : PlaceholderStyle → String
  | .question => "question"
  | .dollar => "dollar"

/-- The style of a name. -/
def styleOfName? (name : String) : Option PlaceholderStyle :=
  if name = styleName .question then some .question
  else if name = styleName .dollar then some .dollar
  else none

/-- A style is read back from its name. -/
@[simp] theorem styleOfName?_styleName (style : PlaceholderStyle) :
    styleOfName? (styleName style) = some style := by
  cases style <;> decide

/-- The entries of a table whose other keys than the given ones are ignored: their numbers
have to have values. -/
def known? (keys : List String) (entries : Entries) : Option Entries :=
  if entries.all fun (name, node) => keys.contains name || node.hasValue then some entries
  else none

/-- The fields of a section: by key in a table, by position in a list. A date or time has
no fields. -/
def fields? (keys : List String) : Node → Option Entries
  | .table _ entries => known? keys entries
  | .array items _ => some (keys.zip items)
  | .dateTime _ => some []
  | _ => none

/-- The fields of a section that may be missing. -/
def fieldsOf? (root : Entries) (name : String) (keys : List String) : Option Entries :=
  match root.lookup name with
  | none => some []
  | some node => fields? keys node

/-- Whether a node is an empty table or list. -/
def isVacant : Node → Bool
  | .table _ entries => entries.isEmpty
  | .array items _ => items.isEmpty
  | _ => false

/-- A style by its name, or as the only key of a table. -/
def style? : Node → Option PlaceholderStyle
  | .string name => styleOfName? name
  | .table _ [(name, node)] => if isVacant node then styleOfName? name else none
  | _ => none

/-- A count: an integer of at most 64 bits without a sign. -/
def count? : Node → Option Nat
  | .integer value => if 0 ≤ value ∧ value < Int.pow 2 64 then some value.toNat else none
  | _ => none

/-- A truth value. -/
def boolean? : Node → Option Bool
  | .boolean value => some value
  | _ => none

/-- A field that has its default if it is missing. -/
def field? {α : Type} (read : Node → Option α) (otherwise : α) (entries : Entries)
    (key : String) : Option α :=
  match entries.lookup key with
  | none => some otherwise
  | some node => read node

/-- The configuration of a document. -/
def ofEntries? (root : Entries) : Option Config := do
  let root ← known? ["query", "diagnostics"] root
  let query ← fieldsOf? root "query" ["placeholder_style"]
  let diagnostics ←
    fieldsOf? root "diagnostics" ["one_to_many_join_warning", "log_join_summary"]
  let style ← field? style? (default : QueryConfig).style query "placeholder_style"
  let initial : DiagnosticsConfig := default
  let warning ← field? count? initial.warning diagnostics "one_to_many_join_warning"
  let reportsJoins ← field? boolean? initial.reportsJoins diagnostics "log_join_summary"
  return ⟨⟨style⟩, ⟨warning, reportsJoins⟩⟩

/-- The configuration a file contains, which has to pass its check. -/
def ofToml (text : String) : Except ConfigError Config :=
  match (Toml.document? text).bind ofEntries? with
  | none => .error .malformed
  | some config => config.checked

/-- The text of a configuration file with all keys. -/
def toml (config : Config) : String :=
  "[query]\nplaceholder_style = \"" ++ styleName config.query.style ++
    "\"\n\n[diagnostics]\none_to_many_join_warning = " ++
    toString config.diagnostics.warning ++
    "\nlog_join_summary = " ++ Json.boolean config.diagnostics.reportsJoins ++ "\n"

/-- The configuration as compact JSON. -/
def json (config : Config) : String :=
  Json.object
    [("query",
      Json.object [("placeholder_style", Json.quoted (styleName config.query.style))]),
     ("diagnostics", Json.object
       [("one_to_many_join_warning", toString config.diagnostics.warning),
        ("log_join_summary", Json.boolean config.diagnostics.reportsJoins)])]

end BoundSql.Config
