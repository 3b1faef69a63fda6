import CloudDiagram.Diagram.Basic
import CloudDiagram.Record.Shape

/-!
# The exchange format

The document in which diagrams are saved, exported and imported.

* `ExchangeNode`, `ExchangeDocument`: its parts;
* `ExchangeNode.shape`, `Connection.shape`, `ExchangeDocument.shape`: how they are read;
* `ExchangeDocument.toJson`: how they are written;
* `ExchangeDocument.ofDiagram`, `ExchangeDocument.toDiagram`: what they stand for.
-/

namespace CloudDiagram

open Json

/-- The name under which the canvas draws a component. -/
def nodeRenderer : String := "infra"

/-- **A component in a document.** The icon is the canvas's own and is dropped on export. -/
structure ExchangeNode where
  id : String
  position : Position
  renderer : String
  kind : Kind
  label : Option String
  name : Option String
  icon : Option String
  properties : Properties

/-- **A document.** -/
structure ExchangeDocument where
  nodes : List ExchangeNode
  edges : List Connection

/-! ## Reading -/

/-- A position as a record. -/
def Position.shape : Shape :=
  .record "Position" (.cons "x" true .coordinate (.cons "y" true .coordinate .nil))

/-- The position of a record. -/
def Position.ofCarrier : Position.shape.Carrier → Position
  | (x, y, ()) => ⟨x, y⟩

/-- What a component holds, as a record. -/
def ExchangeNode.dataShape : Shape :=
  .record "ExchangeNodeData" (
    .cons "type" true .text <|
    .cons "label" false .optionalText <|
    .cons "name" false .optionalText <|
    .cons "icon" false .optionalText <|
    .cons "properties" false .lenientProperties .nil)

/-- A component as a record. -/
def ExchangeNode.shape : Shape :=
  .record "ExchangeNode" (
    .cons "id" true .text <|
    .cons "position" false Position.shape <|
    .cons "type" false .text <|
    .cons "data" true ExchangeNode.dataShape .nil)

/-- **The component of a record**; what is left out gets its default. -/
def ExchangeNode.ofCarrier : ExchangeNode.shape.Carrier → ExchangeNode
  | (id, position, renderer, (kind, label, name, icon, properties, ()), ()) =>
    { id
      position := (position.map Position.ofCarrier).getD .origin
      renderer := renderer.getD nodeRenderer
      kind := .ofText kind
      label := label.join
      name := name.join
      icon := icon.join
      properties := properties.getD .empty }

/-- A connection as a record. -/
def Connection.shape : Shape :=
  .record "Connection" (
    .cons "id" true .text <|
    .cons "source" true .text <|
    .cons "target" true .text <|
    .cons "sourceHandle" false .optionalText <|
    .cons "targetHandle" false .optionalText <|
    .cons "type" false .optionalText .nil)

/-- The connection of a record. -/
def Connection.ofCarrier : Connection.shape.Carrier → Connection
  | (id, source, target, sourceHandle, targetHandle, style, ()) =>
    ⟨id, source, target, sourceHandle.join, targetHandle.join, style.join⟩

/-- A document as a record. -/
def ExchangeDocument.shape : Shape :=
  .record "ExchangeDocument" (
    .cons "nodes" true (.sequence ExchangeNode.shape) <|
    .cons "edges" true (.sequence Connection.shape) .nil)

/-- The document of a record. -/
def ExchangeDocument.ofCarrier : ExchangeDocument.shape.Carrier → ExchangeDocument
  | (nodes, edges, ()) => ⟨nodes.map ExchangeNode.ofCarrier, edges.map Connection.ofCarrier⟩

/-- **A document straight from its text.** -/
def ExchangeDocument.ofText (text : String) : Except Failure ExchangeDocument :=
  (ExchangeDocument.shape.ofText text.toList).map ExchangeDocument.ofCarrier

/-! ## Writing -/

/-- A member that is left out when there is nothing to say. -/
def optionalMember (key : String) : Option String → List (String × Value)
  | none => []
  | some s => [(key, .string s)]

/-- A position as JSON. -/
def Position.toJson (p : Position) : Value :=
  .object [("x", .ofBinary64 p.x), ("y", .ofBinary64 p.y)]

/-- A component as JSON. -/
def ExchangeNode.toJson (n : ExchangeNode) : Value :=
  .object [
    ("id", .string n.id),
    ("position", n.position.toJson),
    ("type", .string n.renderer),
    ("data", .object (
      [("type", .string n.kind.text)] ++ optionalMember "label" n.label ++
      [("name", .ofOption n.name)] ++ optionalMember "icon" n.icon ++
      [("properties", Properties.toJson n.properties)]))]

/-- A connection as JSON. -/
def Connection.toJson (c : Connection) : Value :=
  .object ([("id", .string c.id), ("source", .string c.source), ("target", .string c.target)] ++
    optionalMember "sourceHandle" c.sourceHandle ++ optionalMember "targetHandle" c.targetHandle ++
    optionalMember "type" c.style)

/-- **A document as JSON**, its members in the order of their declaration. -/
def ExchangeDocument.toJson (d : ExchangeDocument) : Value :=
  .object [
    ("nodes", .list (d.nodes.map ExchangeNode.toJson)),
    ("edges", .list (d.edges.map Connection.toJson))]

/-! ## Diagrams -/

/-- A component of a diagram in a document. -/
def ExchangeNode.ofNode (n : Node) : ExchangeNode :=
  ⟨n.id, n.position, nodeRenderer, n.kind, n.label, some n.name, none, n.properties⟩

/-- The component of a diagram that a component of a document stands for. -/
def ExchangeNode.toNode (n : ExchangeNode) : Node :=
  ⟨n.id, n.kind, n.name.getD "", n.label, n.position, n.properties⟩

/-- The document of a diagram. -/
def ExchangeDocument.ofDiagram (d : Diagram) : ExchangeDocument :=
  ⟨d.nodes.map ExchangeNode.ofNode, d.edges⟩

/-- **The diagram that a document stands for.** -/
def ExchangeDocument.toDiagram (d : ExchangeDocument) : Diagram :=
  ⟨d.nodes.map ExchangeNode.toNode, d.edges⟩

end CloudDiagram
