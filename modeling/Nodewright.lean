import Nodewright.Main
import Nodewright.Session
import Nodewright.Proofs.Execution.ForkOrder
import Nodewright.Proofs.Report.Extension
import Nodewright.Proofs.Resources.Filling
import Nodewright.Proofs.Execution.Filling
import Nodewright.Proofs.Execution.Admissible
import Nodewright.Proofs.Filling.Problems
import Nodewright.Proofs.Filling.Settings
import Nodewright.Proofs.Filling.Closure
import Nodewright.Proofs.Resources.Growth
import Nodewright.Proofs.Admission.History
import Nodewright.Proofs.Report.Places
import Nodewright.Proofs.Json.Token
import Nodewright.Proofs.Json.RoundTrip
import Nodewright.Proofs.Json.Arrangement
import Nodewright.Proofs.Json.Places
import Nodewright.Proofs.Codec.Lawful
import Nodewright.Proofs.Codec.Records
import Nodewright.Proofs.Manifest.RoundTrip
import Nodewright.Proofs.Admission.Demands
import Nodewright.Proofs.Admission.Completeness
import Nodewright.Proofs.Admission.Interchange
import Nodewright.Proofs.Session.Invariant
import Nodewright.Proofs.Beacon.Spelling
import Nodewright.Proofs.Text.Joined
import Nodewright.Proofs.Arguments.Items
import Nodewright.Proofs.Execution.CommandLines
import Nodewright.Proofs.Secrets.Confinement
import Nodewright.Proofs.Images.Influence
import Nodewright.Proofs.CommandLine.Outcomes
import Nodewright.Proofs.Images.Configuration
import Nodewright.Proofs.Images.Precedence
import Nodewright.Proofs.Text.Runs
import Nodewright.Proofs.Quantity.Grammar
import Nodewright.Proofs.Workloads.Names
import Nodewright.Proofs.Workloads.Resources
import Nodewright.Proofs.Endpoints.Idle
import Nodewright.Proofs.CommandLine.Agreement
import Nodewright.Proofs.CommandLine.FixedPoint
import Nodewright.Proofs.FieldPath.Text
import Nodewright.Proofs.Report.Slots
import Nodewright.Proofs.Report.Once
import Nodewright.Proofs.Execution.LateForks
import Nodewright.Proofs.Execution.InheritedForks
import Nodewright.Proofs.Execution.ImportedAccounts
import Nodewright.Proofs.Url.Place
import Nodewright.Proofs.Beacon.Endpoints
import Nodewright.Proofs.Filling.Limits
import Nodewright.Proofs.FieldPath.Below
import Nodewright.Proofs.Report.Relative
import Nodewright.Proofs.Execution.Locality
import Nodewright.Proofs.Binary64.Rounding
import Nodewright.Proofs.Quantity.Value
import Nodewright.Proofs.Quantity.Order
import Nodewright.Proofs.Resources.Comparison
import Nodewright.Proofs.Text.Trimmed
import Nodewright.Proofs.Format.Grammar
import Nodewright.Proofs.Format.Multiaddr
import Nodewright.Proofs.Images.Empty
import Nodewright.Proofs.Workloads.Variables
import Nodewright.Proofs.Storage.Environment
import Nodewright.Proofs.Aptos.Environment
import Nodewright.Proofs.Oracle.Environment
import Nodewright.Proofs.Workloads.Environments
import Nodewright.Proofs.Execution.Advice
import Nodewright.Proofs.Oracle.Listener
