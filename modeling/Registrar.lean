import Registrar.Main
import Registrar.Proofs.Filter.Guard
import Registrar.Proofs.Filter.Reading
import Registrar.Proofs.Filter.Shape
import Registrar.Proofs.Mutation
import Registrar.Proofs.Sql.Breaking
import Registrar.Proofs.Sql.Closing
import Registrar.Proofs.Filter.Marks
import Registrar.Proofs.Sql.Remaining
import Registrar.Proofs.Sql.Sealing
import Registrar.Proofs.Filter.Sealing
import Registrar.Proofs.Sql.Counting
import Registrar.Proofs.Statements
import Registrar.Proofs.Parameters
import Registrar.Proofs.Sql.Written
import Registrar.Proofs.Users
import Registrar.Proofs.Schema
import Registrar.Proofs.UserRows
import Registrar.Proofs.Resetting
import Registrar.Proofs.Bootstrap
import Registrar.Proofs.Login
import Registrar.Proofs.Sql.Renumbering
import Registrar.Proofs.Sql.Rereading
import Registrar.Proofs.Sql.Embedding
import Registrar.Proofs.Accounts.Names
import Registrar.Proofs.Accounts.Asking
import Registrar.Proofs.Accounts.Enrolling
import Registrar.Proofs.Accounts.Directory
import Registrar.Proofs.Accounts.Agreement
import Registrar.Proofs.Sql.Following
import Registrar.Proofs.Sql.Soundness
import Registrar.Proofs.Reach
import Registrar.Proofs.Accounts.Remembering
import Registrar.Proofs.Accounts.Removing
import Registrar.Proofs.Accounts.History
import Registrar.Proofs.Aliases
import Registrar.Proofs.Verbs
import Registrar.Proofs.Recall
import Registrar.Proofs.Rows
import Registrar.Proofs.Giving
import Registrar.Proofs.Releasing
import Registrar.Proofs.StartingOver
import Registrar.Proofs.Filter.Membership
import Registrar.Proofs.Renaming
import Registrar.Proofs.ColumnLists
import Registrar.Proofs.Addressing
import Registrar.Proofs.Accounts.Fairness
import Registrar.Proofs.Calendar
import Registrar.Proofs.Fetching
import Registrar.Proofs.WritingBack
import Registrar.Proofs.Filter.WellFormed
import Registrar.Proofs.Listing
import Registrar.Proofs.Accounts.Wording
import Registrar.Proofs.Smuggling
import Registrar.Proofs.Projecting
import Registrar.Proofs.FirstColumns
import Registrar.Proofs.Coercion.WholeNumbers
import Registrar.Proofs.Coercion.Pieces
import Registrar.Proofs.Coercion.Display
import Registrar.Proofs.Joining
import Registrar.Proofs.Filter.Siblings
import Registrar.Proofs.Sql.Beside
import Registrar.Proofs.Sql.Partners
import Registrar.Proofs.JoinTexts
import Registrar.Proofs.ScalarFilters
