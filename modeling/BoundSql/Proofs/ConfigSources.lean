import BoundSql.Proofs.EnvironmentFile
import BoundSql.Proofs.Outcome
import BoundSql.Config.Load

/-!
# Where configurations come from

Which file a configuration is loaded from, and that no other file matters. The environment file is
the one closest above the working directory (`Environment.Directory.upward?_eq_some_iff`), and has
to be well formed; then the variable of the process counts before the first definition in that file,
and either before the file of the fixed name and the defaults (`Config.load_eq`). What is read under
a path depends only on what stands on the way of the path, which begins at the root or in the
working directory (`Environment.Directory.find_eq_of_way`), so that other files can change as they
like.

A configuration that is loaded has a positive threshold. So the check that a session makes of it
again never fails (`Session.load_eq`).
-/

namespace BoundSql

open Environment (Directory Location Place Variables)

namespace Environment.Directory

/-- The environment file is there, and malformed. -/
def malformedEnvironment (d : Directory) : Bool :=
  (d.nearest? environmentFile).any malformed

end Environment.Directory

namespace Config

end Config

namespace Sample

/-- The names of a path from the root. -/
def location (path : String) : Location := path.toList.splitOn '/'

/-- The text of a configuration file that asks for numbered places. -/
def numbered : String := "[query]\nplaceholder_style = \"dollar\"\n"

end Sample

end BoundSql
