import CloudDiagram.Exchange.Basic
import CloudDiagram.Notice

/-!
# Import and export

* `Diagram.exportText`: the document of a diagram as text;
* `ImportError`: the defects of a document;
* `importDiagram`: the diagram of a text, or the first defect.
-/

namespace CloudDiagram

open Json

/-- **The text of a diagram**, which is also what is saved. -/
def Diagram.exportText (d : Diagram) : String :=
  (ExchangeDocument.ofDiagram d).toJson.pretty

/-- What a value is called when a list was expected. -/
def typeName : Value → String
  | .null => "null"
  | .bool _ => "a boolean"
  | .number _ => "a number"
  | .string _ => "a string"
  | .list _ => "an array"
  | .object _ => "an object"

/-- **A defect of a document.** -/
inductive ImportError
  | invalidJson (cause : Cause) (place : Place)
  | notAnObject
  | missingCollection (field : String)
  | notAList (field : String) (found : String)
  | invalidNode (index : Nat) (failure : Failure)
  | invalidEdge (index : Nat) (failure : Failure)
  | duplicateNodeId (id : String)
  deriving DecidableEq

/-- The wording of a defect. -/
def ImportError.message : ImportError → String
  | invalidJson cause place => "Invalid JSON file: " ++ cause.text ++ " at " ++ place.text
  | notAnObject =>
    "Invalid JSON structure: the top level must be an object with 'nodes' and 'edges' arrays"
  | missingCollection field => "Invalid JSON structure: missing '" ++ field ++ "' array"
  | notAList field found =>
    "Invalid JSON structure: '" ++ field ++ "' must be an array, but found " ++ found
  | invalidNode index f => "Node at index " ++ toString index ++ " is invalid: " ++ f.message
  | invalidEdge index f => "Edge at index " ++ toString index ++ " is invalid: " ++ f.message
  | duplicateNodeId id => "Node id '" ++ id ++ "' appears more than once"

/-- The list under a name. -/
def collection (members : List (String × Value)) (field : String) :
    Except ImportError (List Value) :=
  match members.find? (·.1 == field) with
  | none => .error (.missingCollection field)
  | some (_, .list items) => .ok items
  | some (_, v) => .error (.notAList field (typeName v))

/-- The component of a value. -/
def ExchangeNode.ofValue (v : Value) : Except Failure ExchangeNode :=
  (ExchangeNode.shape.ofValue v).map ExchangeNode.ofCarrier

/-- The connection of a value. -/
def Connection.ofValue (v : Value) : Except Failure Connection :=
  (Connection.shape.ofValue v).map Connection.ofCarrier

/-- A computation that may fail, with the notices given until then. -/
abbrev Attempt (ε α : Type) := ExceptT ε Noted α

/-- The components of values, from an index on and after some ids. -/
def importNodes (index : Nat) (seen : List String) :
    List Value → Attempt ImportError (List ExchangeNode)
  | [] => return []
  | v :: rest =>
    match ExchangeNode.ofValue v with
    | .error f => throw (.invalidNode index f)
    | .ok n =>
      if seen.contains n.id then throw (.duplicateNodeId n.id)
      else do
        if !n.kind.isKnown then
          Noted.say .warning ("Node '" ++ n.id ++ "' has unknown type '" ++ n.kind.text ++
            "'; it will render as a placeholder")
        let others ← importNodes (index + 1) (n.id :: seen) rest
        return n :: others

/-- The connections of values, from an index on, among components of some ids. -/
def importEdges (index : Nat) (ids : List String) :
    List Value → Attempt ImportError (List Connection)
  | [] => return []
  | v :: rest =>
    match Connection.ofValue v with
    | .error f => throw (.invalidEdge index f)
    | .ok c => do
      if !ids.contains c.source || !ids.contains c.target then
        Noted.say .warning ("Edge '" ++ c.id ++ "' references a missing node (" ++ c.source ++
          " -> " ++ c.target ++ ")")
      let others ← importEdges (index + 1) ids rest
      return c :: others

/-- The document of a text, its node ids distinct. -/
def importDocument (text : String) : Attempt ImportError ExchangeDocument :=
  match Value.ofText text.toList with
  | .error f => throw (.invalidJson f.cause (f.place text.toList))
  | .ok (.object members) => do
    let rawNodes ← collection members "nodes"
    let rawEdges ← collection members "edges"
    let nodes ← importNodes 0 [] rawNodes
    let edges ← importEdges 0 (nodes.map (·.id)) rawEdges
    return ⟨nodes, edges⟩
  | .ok _ => throw .notAnObject

/-- **The diagram of a text**, or its first defect, with a warning for each component of an unknown
kind and each connection to a missing component. -/
def importDiagram (text : String) : Noted (Except ImportError Diagram) :=
  ((importDocument text).map ExchangeDocument.toDiagram).run

end CloudDiagram
