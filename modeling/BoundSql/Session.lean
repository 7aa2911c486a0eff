import BoundSql.Gateway.Composite

/-!
# Sessions

Gateways that share the settings of one checked configuration. A session reports the settings
it starts with; the default one reports nothing.
-/

namespace BoundSql

/-- Why a session, or a gateway of one, cannot be made. -/
inductive SessionError where
  /-- A statement or a part of one is refused. -/
  | query (cause : QueryError)
  /-- The configuration is refused. -/
  | config (cause : ConfigError)
deriving DecidableEq, Repr

namespace SessionError

/-- The sentence that explains an error. Failures of files have no fixed text. -/
def message? : SessionError → Option String
  | .query cause => some ("Query error: " ++ cause.message)
  | .config cause => cause.message?.map ("Configuration error: " ++ ·)

end SessionError

/-- A configuration that gateways share, with the settings that are derived from it. -/
structure Session where
  /-- The configuration. -/
  config : Config
  /-- The settings of the gateways. -/
  settings : Settings
deriving DecidableEq, Repr

namespace Session

/-- The session of the default configuration. -/
instance : Inhabited Session := ⟨⟨default, (default : Config).settings⟩⟩

/-- The session of a configuration, which has to pass its check, with the event that reports
its settings. -/
def start (config : Config) : Except SessionError (Session × List Event) :=
  match config.checked with
  | .error cause => .error (.config cause)
  | .ok config => .ok (⟨config, config.settings⟩, [.configured config.settings])

/-- The gateway of a table by its default alias. -/
def gateway {E : Type} (session : Session) (definition : TableDefinition E) :
    Except SessionError (EntityGateway E) :=
  (EntityGateway.make definition session.settings).mapError .query

/-- The gateway of a table by the given alias. -/
def gatewayAs {E : Type} (session : Session) (definition : TableDefinition E)
    (aliasName : String) : Except SessionError (EntityGateway E) :=
  (EntityGateway.makeAs definition aliasName session.settings).mapError .query

end Session

end BoundSql
