import RestScaffold.Disk.Tree
import RestScaffold.Main
import RestScaffold.Proofs.Code.Items
import RestScaffold.Proofs.Code.Lines
import RestScaffold.Proofs.Disk.Path
import RestScaffold.Proofs.Generation.Batch
import RestScaffold.Proofs.Generation.Paths
import RestScaffold.Proofs.Model.Compose
import RestScaffold.Proofs.Text.Identifier
import RestScaffold.Proofs.Text.Lines
import RestScaffold.Proofs.Text.Split
import RestScaffold.Proofs.Code.Reading
import RestScaffold.Proofs.Code.Declarations
import RestScaffold.Proofs.Output.File
import RestScaffold.Proofs.Model.Names
import RestScaffold.Proofs.Output.Handlers
import RestScaffold.Proofs.Output.Router
import RestScaffold.Proofs.Generation.Routing
import RestScaffold.Proofs.Output.Statements
import RestScaffold.Proofs.Disk.Growth
import RestScaffold.Proofs.Disk.Steps
import RestScaffold.Proofs.Disk.Write
import RestScaffold.Proofs.Disk.Places
import RestScaffold.Proofs.Emission.Emitter
import RestScaffold.Proofs.Emission.Account
import RestScaffold.Proofs.Generation.Run
import RestScaffold.Proofs.Command.Gate
import RestScaffold.Proofs.Manifest.Body
import RestScaffold.Proofs.Manifest.Names
import RestScaffold.Proofs.Model.Refusal
import RestScaffold.Proofs.Text.SnakeCase
import RestScaffold.Proofs.Text.Lowered
import RestScaffold.Proofs.Naming.Plural
import RestScaffold.Proofs.Generation.Reach
import RestScaffold.Proofs.Manifest.Safety
import RestScaffold.Proofs.Output.Contents
import RestScaffold.Proofs.Manifest.Tables
import RestScaffold.Proofs.Output.Splices
import RestScaffold.Proofs.Generation.Shadowing
import RestScaffold.Proofs.Output.Records
import RestScaffold.Proofs.Output.Bindings
import RestScaffold.Proofs.Manifest.Keys
import RestScaffold.Proofs.Generation.Keywords
import RestScaffold.Proofs.Generation.Layouts
import RestScaffold.Proofs.Generation.Independence
import RestScaffold.Proofs.Generation.DeclaredOnce
import RestScaffold.Proofs.Output.Columns
import RestScaffold.Proofs.Distinct
import RestScaffold.Proofs.Emission.Repeated
import RestScaffold.Proofs.Manifest.Plurals
import RestScaffold.Proofs.Text.Underscores
import RestScaffold.Proofs.Command.FileCount
import RestScaffold.Proofs.Naming.SharedTables
import RestScaffold.Proofs.Generation.DerivedTables
import RestScaffold.Proofs.Naming.Layers
import RestScaffold.Proofs.Code.ImportBlock
import RestScaffold.Proofs.Code.Scope
import RestScaffold.Proofs.Naming.RouteNames
import RestScaffold.Proofs.Code.Flattening
import RestScaffold.Proofs.Code.Rows
import RestScaffold.Proofs.Code.Comments
import RestScaffold.Proofs.Code.BlankLines
import RestScaffold.Proofs.Output.Spacing
import RestScaffold.Proofs.Code.ChainSteps
import RestScaffold.Proofs.Code.RawLines
import RestScaffold.Proofs.Generation.Detached
import RestScaffold.Proofs.Code.Signature
import RestScaffold.Proofs.Text.Occurrence
import RestScaffold.Proofs.Manifest.NameSpan
import RestScaffold.Proofs.Manifest.Objections
