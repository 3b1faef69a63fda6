import CloudDiagram.Generation.Generator
import CloudDiagram.Workspace.Store

/-!
# The workspace

The editor of a diagram. A change is saved before it is made, so a save that fails changes nothing.

* `WorkspaceError`: why an operation is refused;
* `Workspace`, `Workspace.ofStore`: a diagram with its store, and how it is taken up again;
* `Workspace.update`: a change of the diagram;
* `addComponent`, `quickAdd`, `setProperty`, `renameNode`, `moveNode`, `removeNode`, `connect`,
  `disconnect`, `clear`, `importText`: the operations;
* `document`, `exportText`: what is shown and what is handed out.
-/

namespace CloudDiagram

/-- Why two components cannot be connected. -/
inductive ConnectionProblem
  | toItself
  | alreadyConnected
  deriving DecidableEq

/-- The wording of a problem. -/
def ConnectionProblem.message : ConnectionProblem → String
  | toItself => "a component cannot connect to itself"
  | alreadyConnected => "the components are already connected"

/-- **Why an operation is refused.** -/
inductive WorkspaceError
  | nodeNotFound (id : String)
  | edgeNotFound (id : String)
  | invalidConnection (source target : String) (problem : ConnectionProblem)
  | invalidPosition (position : Position)
  | nothingToExport
  | badImport (error : ImportError)
  | store (error : StoreError)
  deriving DecidableEq

/-- The wording of a refusal. -/
def WorkspaceError.message : WorkspaceError → String
  | nodeNotFound id => "Component '" ++ id ++ "' not found"
  | edgeNotFound id => "Connection '" ++ id ++ "' not found"
  | invalidConnection source target problem =>
    "Cannot connect '" ++ source ++ "' to '" ++ target ++ "': " ++ problem.message
  | invalidPosition p =>
    "Position (" ++ p.x.plain ++ ", " ++ p.y.plain ++ ") is not a finite coordinate"
  | nothingToExport => "No components to export."
  | badImport e => e.message
  | store e => e.message

/-- **A workspace.** -/
structure Workspace (σ : Type) where
  diagram : Diagram
  format : Format
  generator : Generator
  store : σ

/-- An operation: it may be refused, gives notices and leaves a workspace. -/
abbrev Operation (σ α : Type) := Workspace σ → Noted (Except WorkspaceError α × Workspace σ)

/-- An edit of a diagram: it may be refused and gives notices. -/
abbrev Edit (α : Type) := Diagram → Attempt WorkspaceError (α × Diagram)

/-- Where a component is put that is added without a place. -/
def quickAddPosition : Position := ⟨.ofNat 300, .ofNat 300⟩

/-- How much there is in a diagram. -/
def Diagram.extent (d : Diagram) : String :=
  toString d.nodes.length ++ " components and " ++ toString d.edges.length ++ " connections"

/-! ## Edits of a diagram -/

namespace Diagram

/-- One more component of a kind. -/
def addComponent (kind : Kind) (position : Position) : Edit String := fun d => do
  let id := d.nextNodeId
  let node := { Node.ofKind id kind kind.label with label := some kind.label, position }
  Noted.say .debug ("Adding " ++ kind.text ++ " component '" ++ id ++ "'")
  return (id, { d with nodes := d.nodes ++ [node] })

/-- One more server. -/
def quickAdd : Edit String := fun d =>
  let id := d.nextNodeId
  let node := { Node.ofKind id .server "Server" with
    label := some "New Server", position := quickAddPosition }
  return (id, { d with nodes := d.nodes ++ [node] })

/-- A change of the component of an id. -/
def modifyNode (id : String) (change : Node → Node) : Edit Unit := fun d =>
  match d.modifyNode? id change with
  | none => throw (.nodeNotFound id)
  | some next => return ((), next)

/-- The component of an id removed, with the connections at it. -/
def removeNode (id : String) : Edit Node := fun d =>
  match d.nodes.find? (·.id == id) with
  | none => throw (.nodeNotFound id)
  | some node => do
    let edges := d.edges.filter fun e => !e.touches id
    Noted.say .debug ("Removed component '" ++ id ++ "' and " ++
      toString (d.edges.length - edges.length) ++ " attached connections")
    return (node, ⟨d.nodes.eraseP (·.id == id), edges⟩)

/-- One more connection. -/
def addEdge (c : Connection) : Edit String := fun d =>
  return (c.id, { d with edges := d.edges ++ [c] })

/-- The connection of an id removed. -/
def removeEdge (id : String) : Edit Connection := fun d =>
  match d.edges.find? (·.id == id) with
  | none => throw (.edgeNotFound id)
  | some c => return (c, { d with edges := d.edges.eraseP (·.id == id) })

/-- The id of a connection: the plain one, or the plain one with the least number from two on that
makes it free. One of the first numbers, as many as there are connections and one more, does. -/
def freeEdgeId (d : Diagram) (source target : String) : String :=
  let plain := edgeId source target
  if !d.hasEdge plain then plain
  else
    let numbered := (List.range (d.edges.length + 1)).map fun n => plain ++ "-" ++ toString (n + 2)
    (numbered.find? fun id => !d.hasEdge id).getD plain

/-- **The connection that joins two components**, or why they cannot be joined. -/
def newConnection (d : Diagram) (source target : String)
    (sourceHandle targetHandle : Option String) : Except WorkspaceError Connection :=
  let c : Connection := ⟨d.freeEdgeId source target, source, target, sourceHandle, targetHandle, none⟩
  if source = target then .error (.invalidConnection source target .toItself)
  else if (d.node? source).isNone then .error (.nodeNotFound source)
  else if (d.node? target).isNone then .error (.nodeNotFound target)
  else if d.edges.any (·.sameEndpoints c) then
    .error (.invalidConnection source target .alreadyConnected)
  else .ok c

end Diagram

namespace Workspace

variable {σ α : Type} [DiagramStore σ]

/-- **A workspace over a store**, with the diagram that it holds. An unreadable one is discarded. -/
def ofStore (store : σ) (config : GeneratorConfig) :
    Noted (Except WorkspaceError (Workspace σ)) := do
  let start (diagram : Diagram) : Except WorkspaceError (Workspace σ) :=
    .ok ⟨diagram, .default, .ofConfig config, store⟩
  match ← DiagramStore.load store with
  | .ok (some d) => do
    Noted.say .info ("Restored " ++ d.extent)
    return start d
  | .ok none => return start .empty
  | .error (.corrupt reason) => do
    Noted.say .warning ("Discarding unreadable saved diagram: " ++ reason)
    return start .empty
  | .error e => return .error (.store e)

/-- An operation that is refused and changes nothing. -/
def refuse (e : WorkspaceError) : Operation σ α := fun w => pure (.error e, w)

/-- The workspace after a diagram has been saved, or the refusal of the store. -/
def save (next : Diagram) (result : α) : Operation σ α := fun w =>
  match DiagramStore.save w.store next with
  | (.error e, store) => pure (.error (.store e), { w with store })
  | (.ok (), store) => pure (.ok result, { w with diagram := next, store })

/-- **A change of the diagram**: edited, saved and only then made. -/
def update (edit : Edit α) : Operation σ α := fun w => do
  match ← (edit w.diagram).run with
  | .error e => refuse e w
  | .ok (result, next) => save next result w

/-- An operation at a position, which has to be finite. -/
def atPosition (position : Position) (operation : Operation σ α) : Operation σ α :=
  if position.isFinite then operation else refuse (.invalidPosition position)

/-- One more component of a kind. -/
def addComponent (kind : Kind) (position : Position) : Operation σ String :=
  atPosition position (update (Diagram.addComponent kind position))

/-- One more server. -/
def quickAdd : Operation σ String := update Diagram.quickAdd

/-- A property of a component set. -/
def setProperty (id key : String) (value : PropertyValue) : Operation σ Unit :=
  update (Diagram.modifyNode id fun n => { n with properties := n.properties.insert key value })

/-- A component renamed. -/
def renameNode (id name : String) : Operation σ Unit :=
  update (Diagram.modifyNode id fun n => { n with name })

/-- A component moved. -/
def moveNode (id : String) (position : Position) : Operation σ Unit :=
  atPosition position (update (Diagram.modifyNode id fun n => { n with position }))

/-- A component removed, with the connections at it. -/
def removeNode (id : String) : Operation σ Node := update (Diagram.removeNode id)

/-- **Two components connected.** -/
def connect (source target : String) (sourceHandle targetHandle : Option String) :
    Operation σ String := fun w =>
  match w.diagram.newConnection source target sourceHandle targetHandle with
  | .error e => refuse e w
  | .ok c => update (Diagram.addEdge c) w

/-- A connection removed. -/
def disconnect (id : String) : Operation σ Connection := update (Diagram.removeEdge id)

/-- **The canvas emptied and the saved diagram forgotten**, unless the store refuses. -/
def clear : Operation σ Unit := fun w =>
  match DiagramStore.clear w.store with
  | (.error e, store) => pure (.error (.store e), { w with store })
  | (.ok (), store) => do
    Noted.say .info "Workspace cleared"
    return (.ok (), { w with diagram := .empty, store })

/-- Another format selected. -/
def selectFormat (format : Format) : Operation σ Unit := fun w => pure (.ok (), { w with format })

/-- **The diagram replaced by an imported one**, unless it is defective or cannot be saved. -/
def importText (text : String) : Operation σ Unit := fun w => do
  match ← importDiagram text with
  | .error e => refuse (.badImport e) w
  | .ok d => do
    let (outcome, next) ← save d () w
    if outcome.toBool then Noted.say .info ("Imported " ++ d.extent)
    return (outcome, next)

/-- The diagram as a document to hand out; an empty canvas has none. -/
def exportText (w : Workspace σ) : Noted (Except WorkspaceError String) :=
  if w.diagram.nodes.isEmpty then pure (.error .nothingToExport)
  else do
    Noted.say .info ("Exported " ++ toString w.diagram.nodes.length ++ " components")
    return .ok w.diagram.exportText

/-- The preview in the selected format. -/
def document (w : Workspace σ) (now : Instant) : Noted GeneratedDocument :=
  w.generator.document w.diagram.nodes w.format now

end Workspace

end CloudDiagram
