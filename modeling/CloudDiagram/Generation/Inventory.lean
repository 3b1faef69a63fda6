import CloudDiagram.Exchange.Basic
import CloudDiagram.Generation.Emitter
import CloudDiagram.Generation.Format

/-!
# Inventories

The components of a diagram as a JSON document for other programs.

* `InfrastructureDocument` and its parts;
* `InfrastructureDocument.build`: the document of components;
* `InfrastructureDocument.toJson`, `InfrastructureDocument.ofText`: writing and reading it;
* `Inventory.emitter`: its text.
-/

namespace CloudDiagram

open Json

/-- The version of the document format. -/
def documentVersion : String := "1.0"

/-- What is said of a whole document. -/
structure DocumentMetadata where
  name : String
  generatedAt : String
  components : Nat
  deriving DecidableEq

/-- What is said of an entry. -/
structure EntryMetadata where
  createdAt : String
  index : Nat
  deriving DecidableEq

/-- A component in a document. -/
structure InfrastructureEntry where
  id : String
  name : String
  kind : String
  position : Position
  properties : Properties
  metadata : EntryMetadata
  deriving DecidableEq

/-- **An inventory.** -/
structure InfrastructureDocument where
  version : String
  metadata : DocumentMetadata
  infrastructure : List InfrastructureEntry
  deriving DecidableEq

namespace InfrastructureDocument

/-- The entry of a component, by its number. -/
def entry (createdAt : String) (n : Node) (index : Nat) : InfrastructureEntry :=
  ⟨n.id, n.name, n.kind.text, n.position, n.properties, ⟨createdAt, index⟩⟩

/-- **The inventory of components.** -/
def build (context : EmitContext) (nodes : List Node) : InfrastructureDocument :=
  let time := context.generatedAt.text
  { version := documentVersion
    metadata := ⟨context.config.projectName ++ " Configuration", time, nodes.length⟩
    infrastructure := (numbered nodes).map fun (n, i) => entry time n i }

end InfrastructureDocument

/-! ## Writing -/

/-- What is said of a document, as JSON. -/
def DocumentMetadata.toJson (m : DocumentMetadata) : Value :=
  .object [("name", .string m.name), ("generatedAt", .string m.generatedAt),
    ("components", .ofNat m.components)]

/-- What is said of an entry, as JSON. -/
def EntryMetadata.toJson (m : EntryMetadata) : Value :=
  .object [("createdAt", .string m.createdAt), ("index", .ofNat m.index)]

/-- An entry as JSON. -/
def InfrastructureEntry.toJson (e : InfrastructureEntry) : Value :=
  .object [("id", .string e.id), ("name", .string e.name), ("type", .string e.kind),
    ("position", e.position.toJson), ("properties", Properties.toJson e.properties),
    ("metadata", e.metadata.toJson)]

/-- **An inventory as JSON.** -/
def InfrastructureDocument.toJson (d : InfrastructureDocument) : Value :=
  .object [("version", .string d.version), ("metadata", d.metadata.toJson),
    ("infrastructure", .list (d.infrastructure.map InfrastructureEntry.toJson))]

/-! ## Reading -/

/-- What is said of a document, as a record. -/
def DocumentMetadata.shape : Shape :=
  .record "DocumentMetadata" (
    .cons "name" true .text <|
    .cons "generatedAt" true .text <|
    .cons "components" true .count .nil)

/-- What is said of an entry, as a record. -/
def EntryMetadata.shape : Shape :=
  .record "EntryMetadata" (.cons "createdAt" true .text <| .cons "index" true .count .nil)

/-- An entry as a record. -/
def InfrastructureEntry.shape : Shape :=
  .record "InfrastructureEntry" (
    .cons "id" true .text <|
    .cons "name" true .text <|
    .cons "type" true .text <|
    .cons "position" true Position.shape <|
    .cons "properties" true .properties <|
    .cons "metadata" true EntryMetadata.shape .nil)

/-- An inventory as a record. -/
def InfrastructureDocument.shape : Shape :=
  .record "InfrastructureDocument" (
    .cons "version" true .text <|
    .cons "metadata" true DocumentMetadata.shape <|
    .cons "infrastructure" true (.sequence InfrastructureEntry.shape) .nil)

/-- The entry of a record. -/
def InfrastructureEntry.ofCarrier : InfrastructureEntry.shape.Carrier → InfrastructureEntry
  | (id, name, kind, position, properties, (createdAt, index, ()), ()) =>
    ⟨id, name, kind, .ofCarrier position, properties, ⟨createdAt, index⟩⟩

/-- The inventory of a record. -/
def InfrastructureDocument.ofCarrier :
    InfrastructureDocument.shape.Carrier → InfrastructureDocument
  | (version, (name, generatedAt, components, ()), entries, ()) =>
    ⟨version, ⟨name, generatedAt, components⟩, entries.map InfrastructureEntry.ofCarrier⟩

/-- **An inventory straight from its text.** -/
def InfrastructureDocument.ofText (text : String) : Except Failure InfrastructureDocument :=
  (InfrastructureDocument.shape.ofText text.toList).map InfrastructureDocument.ofCarrier

/-! ## The text of components -/

namespace Inventory

/-- The text of an inventory. -/
def text (context : EmitContext) (nodes : List Node) : String :=
  (InfrastructureDocument.build context nodes).toJson.pretty

/-- The emitter of inventories. -/
def emitter : Emitter where
  name := Format.json.name
  skeleton context := text context []
  emit context nodes := pure (some (text context nodes))

end Inventory

end CloudDiagram
