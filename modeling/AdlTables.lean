import AdlTables.Main
import AdlTables.Report.Encoding
import AdlTables.Proofs.WellFormed
import AdlTables.Proofs.ForeignKey
import AdlTables.Proofs.KeyColumn
import AdlTables.Proofs.LoadClosure
import AdlTables.Proofs.Run
import AdlTables.Proofs.Reordering
import AdlTables.Proofs.Extension
import AdlTables.Proofs.Spelling
import AdlTables.Proofs.Respelling
import AdlTables.Proofs.Recoding
import AdlTables.Proofs.Identity
import AdlTables.Proofs.Precedence
import AdlTables.Proofs.Reporting
import AdlTables.Proofs.SnakeCase
import AdlTables.Proofs.Flat
import AdlTables.Proofs.TableColumns
import AdlTables.Proofs.Selection
import AdlTables.Proofs.ConstraintNames
import AdlTables.Proofs.Ending
import AdlTables.Proofs.Grammar
import AdlTables.Proofs.ForeignKeyNames
import AdlTables.Proofs.TableBody
import AdlTables.Proofs.SettingsOutcome
import AdlTables.Proofs.PhaseHead
import AdlTables.Proofs.Instantiation
import AdlTables.Proofs.Readability
