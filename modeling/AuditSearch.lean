import AuditSearch.Text.Split
import AuditSearch.Text.Alphanumeric
import AuditSearch.Text.Blank
import AuditSearch.Text.Ascending
import AuditSearch.Expression
import AuditSearch.Output.Rule
import AuditSearch.Output.Schema
import AuditSearch.Output.Plan
import AuditSearch.Audit.GroupResource
import AuditSearch.Audit.Registry
import AuditSearch.Audit.Search
import AuditSearch.Query.Filter
import AuditSearch.Report.Printout
import AuditSearch.Query.Trace
import AuditSearch.Query.Basic
import AuditSearch.Journey.Fields
import AuditSearch.Journey.Catalog
import AuditSearch.Report.Batch
import AuditSearch.Toml.Value
import AuditSearch.Toml.Reader
import AuditSearch.Toml.Text
import AuditSearch.Toml.Scalar
import AuditSearch.Toml.Document
import AuditSearch.Settings.Basic
import AuditSearch.Settings.Document
import AuditSearch.Settings.Load
import AuditSearch.Shell.Style
import AuditSearch.Shell.Environment
import AuditSearch.Shell.Dotenv
import AuditSearch.Shell.Arguments
import AuditSearch.Shell.Session
import AuditSearch.Shell.Files
import AuditSearch.Main
import AuditSearch.Proofs.Text.ByteOrder
import AuditSearch.Proofs.Text.Pieces
import AuditSearch.Proofs.Output.Reading
import AuditSearch.Proofs.Audit.Layers
import AuditSearch.Proofs.Query.Run
import AuditSearch.Proofs.Query.Outcome
import AuditSearch.Proofs.Journey.Coverage
import AuditSearch.Proofs.Output.Requests
import AuditSearch.Proofs.Output.Separators
import AuditSearch.Proofs.Query.Traces
import AuditSearch.Proofs.Query.Commands
import AuditSearch.Proofs.Query.Reordering
import AuditSearch.Proofs.Query.Direct
import AuditSearch.Proofs.Journey.Masking
import AuditSearch.Proofs.Shell.Endings
import AuditSearch.Proofs.Journey.Vocabulary
import AuditSearch.Proofs.Report.Machine
import AuditSearch.Proofs.Report.Pretty
import AuditSearch.Proofs.Output.Stage
import AuditSearch.Proofs.Expression.Chains
import AuditSearch.Proofs.Report.Failures
import AuditSearch.Proofs.Settings.Overrides
import AuditSearch.Proofs.Shell.Choices
import AuditSearch.Proofs.Expression.Literals
import AuditSearch.Proofs.Query.Narrowing
import AuditSearch.Proofs.Output.Writes
import AuditSearch.Proofs.Query.Conditions
import AuditSearch.Proofs.Text.Occurrences
import AuditSearch.Proofs.Query.Positions
import AuditSearch.Proofs.Query.Lookups
import AuditSearch.Proofs.Audit.Cells
import AuditSearch.Proofs.Text.Trimming
import AuditSearch.Proofs.Query.Predicates
import AuditSearch.Proofs.Expression.Objects
import AuditSearch.Proofs.Output.Growth
