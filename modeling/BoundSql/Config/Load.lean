import BoundSql.Config.Toml
import BoundSql.Environment.Directory
import BoundSql.Environment.File
import BoundSql.Session

/-!
# Loading configurations

Where a configuration comes from: the file a variable names, else the file of a fixed name in
the working directory, else the defaults. The variable may be defined by the process or, if
it is not, by the environment file, which is the one closest above the working directory and has
to be well formed in any case. A named file that cannot be read is an error, and never replaced
by another source.
-/

namespace BoundSql

open Environment (Directory Variables)

/-- The variable that names the configuration file. -/
def configVariable : String := "SQLFACADE_CONFIG"

/-- The configuration file of a working directory. -/
def configPath : String := "./sqlfacade.toml"

/-- The name of environment files. -/
def environmentFile : String := ".env"

namespace Config

/-- The configuration in the file under a path. -/
def ofFile (directory : Directory) (path : String) : Except ConfigError Config :=
  match directory.read? path with
  | some text => ofToml text
  | none => .error .unreadable

/-- The variables of a process once the environment file has been read. -/
def environment (directory : Directory) (process : Variables) : Except ConfigError Variables :=
  match directory.nearest? environmentFile with
  | none => .ok process
  | some text =>
    match Environment.load? process text with
    | some known => .ok known
    | none => .error .malformedEnvironment

/-- The configuration in the file that the variables name, else in the file of the fixed name, else
the default one. -/
def ofVariables (directory : Directory) (known : Variables) : Except ConfigError Config :=
  match known.lookup configVariable with
  | some path => ofFile directory path
  | none =>
    match directory.find configPath with
    | .missing => .ok default
    | _ => ofFile directory configPath

/-- The configuration of a process in a working directory, checked in any case. -/
def load (directory : Directory) (process : Variables) : Except ConfigError Config := do
  let known ← environment directory process
  let config ← ofVariables directory known
  config.checked

end Config

/-- The session of the configuration of a process in a working directory. -/
def Session.load (directory : Directory) (process : Variables) :
    Except SessionError (Session × List Event) :=
  match Config.load directory process with
  | .error cause => .error (.config cause)
  | .ok config => Session.start config

end BoundSql
