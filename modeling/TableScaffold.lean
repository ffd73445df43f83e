import TableScaffold.Main
import TableScaffold.Proofs.Artifact.Alignment
import TableScaffold.Proofs.Artifact.Decoding
import TableScaffold.Proofs.Artifact.GoTypes
import TableScaffold.Proofs.Artifact.Requests
import TableScaffold.Proofs.Artifact.Variables
import TableScaffold.Proofs.CommandLine.Inspection
import TableScaffold.Proofs.Config.SingleFile
import TableScaffold.Proofs.Cursor.Outcome
import TableScaffold.Proofs.Cursor.Slices
import TableScaffold.Proofs.Generation.Builtin
import TableScaffold.Proofs.Generation.Constraints
import TableScaffold.Proofs.Generation.DryRun
import TableScaffold.Proofs.Generation.Failure
import TableScaffold.Proofs.Generation.Filler
import TableScaffold.Proofs.Generation.Gluing
import TableScaffold.Proofs.Generation.Independence
import TableScaffold.Proofs.Generation.Overlap
import TableScaffold.Proofs.Generation.Protection
import TableScaffold.Proofs.Generation.Readable
import TableScaffold.Proofs.Generation.Relaid
import TableScaffold.Proofs.Generation.Repetition
import TableScaffold.Proofs.Generation.Selection
import TableScaffold.Proofs.Naming.Route
import TableScaffold.Proofs.Sql.Statement
import TableScaffold.Proofs.Table.Cleaned
import TableScaffold.Proofs.Table.Context
import TableScaffold.Proofs.Table.DefaultValue
import TableScaffold.Proofs.Table.Earliest
import TableScaffold.Proofs.Table.RoundTrip
import TableScaffold.Proofs.Table.Trailing
import TableScaffold.Proofs.Table.TypeSpelling
import TableScaffold.Proofs.Template.Substitution
