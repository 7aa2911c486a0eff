import BoundSql.Query

/-!
# Configurations

What can be configured: how statements are written, and what is reported about their joins.
Each section has its defaults. A configuration that is used by a session has to pass a check:
the threshold of the warning about joins has to be positive.
-/

namespace BoundSql

/-- How statements are written. -/
structure QueryConfig where
  /-- How the places of values are marked. -/
  style : PlaceholderStyle
deriving DecidableEq, Repr

/-- Values are marked with question marks. -/
instance : Inhabited QueryConfig := ⟨⟨.question⟩⟩

/-- What is reported about joins. -/
structure DiagnosticsConfig where
  /-- The number of one-to-many joins from which a selection is warned about. -/
  warning : Nat
  /-- Whether the joins of selections are reported. -/
  reportsJoins : Bool
deriving DecidableEq, Repr

/-- Joins are reported, with a warning from five one-to-many joins on. -/
instance : Inhabited DiagnosticsConfig := ⟨⟨5, true⟩⟩

/-- A configuration, by its sections. -/
structure Config where
  /-- How statements are written. -/
  query : QueryConfig
  /-- What is reported about joins. -/
  diagnostics : DiagnosticsConfig
deriving DecidableEq, Repr

/-- Every section has its defaults. -/
instance : Inhabited Config := ⟨⟨default, default⟩⟩

/-- Why a configuration cannot be loaded or used. -/
inductive ConfigError where
  /-- The configuration file cannot be read. -/
  | unreadable
  /-- The configuration file is not well formed, or has a value of the wrong kind. -/
  | malformed
  /-- The environment file has a malformed line. -/
  | malformedEnvironment
  /-- The warning threshold is zero. -/
  | zeroWarning
deriving DecidableEq, Repr

namespace ConfigError

/-- The sentence that explains a refused configuration. Failures of files have no fixed text. -/
def message? : ConfigError → Option String
  | .zeroWarning =>
    some "Invalid configuration: Diagnostics one_to_many_join_warning must be greater than 0"
  | _ => none

end ConfigError

namespace Config

/-- The same configuration, if the warning threshold is positive. -/
def checked (config : Config) : Except ConfigError Config :=
  if config.diagnostics.warning = 0 then .error .zeroWarning else .ok config

/-- Exactly the configurations with a positive threshold pass the check, unchanged. -/
theorem checked_eq_ok_iff {config passed : Config} :
    config.checked = .ok passed ↔ 0 < config.diagnostics.warning ∧ passed = config := by
  unfold checked
  split
  · next zero => simp [zero]
  · next positive =>
    simp only [Except.ok.injEq]
    exact ⟨fun same => ⟨Nat.pos_of_ne_zero positive, same.symm⟩, fun ⟨_, same⟩ => same.symm⟩

end Config

end BoundSql
