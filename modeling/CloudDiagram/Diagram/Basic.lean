import CloudDiagram.Diagram.Catalog

/-!
# Diagrams

* `Position`, `Node`, `Connection`, `Diagram`: components on a canvas and what joins them;
* `Node.displayName`: the name that is shown;
* `Connection.sameEndpoints`: two connections in parallel;
* `Diagram.nextNodeId`: an id for one more component.
-/

namespace CloudDiagram

open Text

/-- A place on the canvas. -/
structure Position where
  x : Binary64
  y : Binary64
  deriving DecidableEq

namespace Position

/-- The corner of the canvas. -/
def origin : Position := ⟨.zero, .zero⟩

/-- Both coordinates are finite. -/
def isFinite (p : Position) : Bool := p.x.isFinite && p.y.isFinite

/-- Equality of the coordinates as numbers. -/
def same (p q : Position) : Bool := p.x.sameNumber q.x && p.y.sameNumber q.y

end Position

/-- **A component on the canvas.** Its label is the catalog entry that it was placed from. -/
structure Node where
  id : String
  kind : Kind
  name : String
  label : Option String
  position : Position
  properties : Properties
  deriving DecidableEq

namespace Node

/-- A component without a label, at the corner, with the properties of its kind. -/
def ofKind (id : String) (kind : Kind) (name : String) : Node :=
  ⟨id, kind, name, none, .origin, kind.defaults⟩

/-- **The name that is shown**: the name, else the label, else a stand-in. A text of blanks does not
count. -/
def displayName (n : Node) : String :=
  if hasInk n.name then n.name
  else match n.label with
    | some label => if hasInk label then label else "Unnamed"
    | none => "Unnamed"

/-- Equality of components, where the two floating-point zeros are equal. -/
def same (a b : Node) : Bool :=
  a.id == b.id && a.kind == b.kind && a.name == b.name && a.label == b.label &&
    a.position.same b.position && a.properties.same b.properties

end Node

/-- The id of a connection between two components. -/
def edgeId (source target : String) : String := "edge-" ++ source ++ "-" ++ target

/-- **A directed connection**, by the ids of its ends. -/
structure Connection where
  id : String
  source : String
  target : String
  sourceHandle : Option String
  targetHandle : Option String
  style : Option String
  deriving DecidableEq

namespace Connection

/-- A connection without handles. -/
def between (source target : String) : Connection :=
  ⟨edgeId source target, source, target, none, none, none⟩

/-- Both join the same components through the same handles. -/
def sameEndpoints (a b : Connection) : Bool :=
  a.source == b.source && a.target == b.target && a.sourceHandle == b.sourceHandle &&
    a.targetHandle == b.targetHandle

/-- The connection joins a component to something. -/
def touches (c : Connection) (id : String) : Bool := c.source == id || c.target == id

end Connection

/-- **A diagram.** -/
structure Diagram where
  nodes : List Node
  edges : List Connection
  deriving DecidableEq

namespace Diagram

/-- The diagram of an empty canvas. -/
def empty : Diagram := ⟨[], []⟩

instance : Inhabited Diagram := ⟨empty⟩

/-- Neither components nor connections. -/
def isEmpty (d : Diagram) : Bool := d.nodes.isEmpty && d.edges.isEmpty

/-- The first component with an id. -/
def node? (d : Diagram) (id : String) : Option Node := d.nodes.find? (·.id == id)

/-- A connection has the id. -/
def hasEdge (d : Diagram) (id : String) : Bool := d.edges.any (·.id == id)

/-- The nodes with the first one of an id changed. -/
def changeFirst (id : String) (change : Node → Node) : List Node → List Node
  | [] => []
  | n :: rest => if n.id == id then change n :: rest else n :: changeFirst id change rest

/-- **The diagram with the first component of an id changed**, if there is one. -/
def modifyNode? (d : Diagram) (id : String) (change : Node → Node) : Option Diagram :=
  if d.nodes.any (·.id == id) then some { d with nodes := changeFirst id change d.nodes } else none

/-- The number of an id that is made of `node-` and a number of 64 bits. -/
def nodeNumber? (id : String) : Option Nat :=
  if "node-".toList.isPrefixOf id.toList then
    (word? (String.ofList (id.toList.drop 5))).map (·.toNat)
  else none

/-- The numbers of the node ids. -/
def takenNumbers (d : Diagram) : List Nat := d.nodes.filterMap fun n => nodeNumber? n.id

/-- The least positive number below `2^64 - 1` that is not taken. One of the first numbers, as many
as are taken and one more, is free. -/
def lowestFree? (taken : List Nat) : Option Nat :=
  ((List.range (taken.length + 1)).map (· + 1)).find? fun n =>
    n < UInt64.size - 1 && !taken.contains n

/-- **An id for one more component**: one past the highest number, or the lowest gap where that
would not fit into 64 bits. -/
def nextNodeId (d : Diagram) : String :=
  let taken := d.takenNumbers
  let highest := taken.foldl max 0
  if highest + 1 < UInt64.size then "node-" ++ toString (highest + 1)
  else match lowestFree? taken with
    | some n => "node-" ++ toString n
    | none => "node-" ++ toString (UInt64.size - 1) ++ "-" ++ toString d.nodes.length

/-- Equality of diagrams, where the two floating-point zeros are equal. -/
def same (a b : Diagram) : Bool :=
  a.nodes.length == b.nodes.length && (a.nodes.zip b.nodes).all (fun (m, n) => m.same n) &&
    a.edges == b.edges

end Diagram

end CloudDiagram
