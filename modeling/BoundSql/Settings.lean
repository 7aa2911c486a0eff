import BoundSql.Config

/-!
# Settings

The part of a configuration that gateways need while they build statements, in one record.
Settings are derived from a configuration; settings that are used directly are not checked.
-/

namespace BoundSql

/-- The configurable part of statement construction. -/
structure Settings where
  /-- How the places of values are marked. -/
  style : PlaceholderStyle
  /-- The number of one-to-many joins from which a selection is warned about. -/
  warning : Nat
  /-- Whether the joins of selections are reported. -/
  reportsJoins : Bool
deriving DecidableEq, Repr

/-- The settings that a configuration gives. -/
def Config.settings (config : Config) : Settings where
  style := config.query.style
  warning := config.diagnostics.warning
  reportsJoins := config.diagnostics.reportsJoins

/-- Unless something else is asked for, settings are those of the default configuration. -/
instance : Inhabited Settings := ⟨(default : Config).settings⟩

end BoundSql
