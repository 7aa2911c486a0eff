import BoundSql.Config.Load
import BoundSql.Proofs.Placeholders
import BoundSql.Proofs.FilterHistory
import BoundSql.Proofs.StatementText
import BoundSql.Proofs.Meaning
import BoundSql.Proofs.Lexical
import BoundSql.Proofs.Refusals
import BoundSql.Proofs.Literals
import BoundSql.Proofs.Identity
import BoundSql.Proofs.Writes
import BoundSql.Proofs.CheckedParts
import BoundSql.Proofs.JoinReports
import BoundSql.Proofs.RefusalCauses
import BoundSql.Proofs.EnvironmentFile
import BoundSql.Proofs.ConfigSources
import BoundSql.Proofs.QualifierFree
import BoundSql.Proofs.Rebuilding
import BoundSql.Proofs.Parentheses
import BoundSql.Proofs.ResolvedColumns
import BoundSql.Proofs.SelectionList
import BoundSql.Proofs.ConditionRules
import BoundSql.Proofs.JsonDecoding
import BoundSql.Proofs.ConfigText
import BoundSql.Proofs.WriterRuns
import BoundSql.Proofs.NameReports
