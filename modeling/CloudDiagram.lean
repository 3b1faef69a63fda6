import CloudDiagram.Main
import CloudDiagram.Proofs.Terraform.Structure
import CloudDiagram.Proofs.Workspace.Reachable
import CloudDiagram.Proofs.Workspace.Reopen
import CloudDiagram.Proofs.Workspace.Steady
import CloudDiagram.Proofs.Yaml.Scalar
import CloudDiagram.Proofs.Yaml.Block
import CloudDiagram.Proofs.Manifest.Label
import CloudDiagram.Proofs.Manifest.Stream
import CloudDiagram.Proofs.Manifest.ObjectName
import CloudDiagram.Proofs.Workspace.Position
import CloudDiagram.Proofs.Number.Rounding
import CloudDiagram.Proofs.Number.Shortest
import CloudDiagram.Proofs.Json.Scaled
import CloudDiagram.Proofs.Json.Decimal
import CloudDiagram.Proofs.Json.Reread
import CloudDiagram.Proofs.Diagram.Reread
import CloudDiagram.Proofs.Number.Nearest
import CloudDiagram.Proofs.Number.Short
import CloudDiagram.Proofs.Json.Exact
import CloudDiagram.Proofs.Diagram.EdgeId
import CloudDiagram.Proofs.Diagram.Linked
import CloudDiagram.Proofs.Workspace.Edited
import CloudDiagram.Proofs.Workspace.Linked
import CloudDiagram.Proofs.Workspace.Unconnected
import CloudDiagram.Proofs.Json.Denoted
import CloudDiagram.Proofs.Exchange.Defect
import CloudDiagram.Proofs.Exchange.Verdict
import CloudDiagram.Proofs.Record.Direct
import CloudDiagram.Proofs.Exchange.Agreement
import CloudDiagram.Proofs.Generation.Registry
import CloudDiagram.Proofs.Inventory.RoundTrip
import CloudDiagram.Proofs.Yaml.Verbatim
import CloudDiagram.Proofs.Shell.Task
import CloudDiagram.Proofs.Shell.Calls
import CloudDiagram.Proofs.Hcl.Literal
import CloudDiagram.Proofs.Manifest.Generated
import CloudDiagram.Proofs.Manifest.Namespace
import CloudDiagram.Proofs.Yaml.Printable
import CloudDiagram.Proofs.Manifest.Printable
import CloudDiagram.Proofs.Diagram.Resolve
import CloudDiagram.Proofs.Diagram.Numbers
import CloudDiagram.Proofs.Workspace.Joined
import CloudDiagram.Proofs.Generation.Listed
import CloudDiagram.Proofs.Workspace.Saving
import CloudDiagram.Proofs.Generation.Slug
import CloudDiagram.Proofs.Workspace.Preview
import CloudDiagram.Proofs.Exchange.Lenient
import CloudDiagram.Proofs.Manifest.DnsLabel
import CloudDiagram.Proofs.Diagram.FormEntry
import CloudDiagram.Proofs.Shell.Spelling
