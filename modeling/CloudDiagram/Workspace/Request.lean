import CloudDiagram.Workspace.Basic

/-!
# Requests to a workspace

The changing operations as data, so that a session is a list.

* `Request`, `Answer`: an operation with its arguments, and its result;
* `Request.perform`: the operation of a request;
* `runRequests`: a session.
-/

namespace CloudDiagram

/-- **An operation with its arguments.** -/
inductive Request
  | addComponent (kind : Kind) (position : Position)
  | quickAdd
  | setProperty (id key : String) (value : PropertyValue)
  | renameNode (id name : String)
  | moveNode (id : String) (position : Position)
  | removeNode (id : String)
  | connect (source target : String) (sourceHandle targetHandle : Option String)
  | disconnect (id : String)
  | clear
  | importText (text : String)
  | selectFormat (format : Format)
  deriving DecidableEq

/-- **The result of an operation.** -/
inductive Answer
  | done
  | id (id : String)
  | node (n : Node)
  | connection (c : Connection)
  | format (f : Format)
  deriving DecidableEq

variable {σ : Type} [DiagramStore σ]

/-- An operation with its result as an answer. -/
def Operation.answer {α : Type} (operation : Operation σ α) (answer : α → Answer) :
    Operation σ Answer := fun w => do
  let (outcome, next) ← operation w
  return (outcome.map answer, next)

/-- **The operation of a request.** -/
def Request.perform : Request → Operation σ Answer
  | addComponent kind position => (Workspace.addComponent kind position).answer .id
  | quickAdd => Workspace.quickAdd.answer .id
  | setProperty id key value => (Workspace.setProperty id key value).answer fun _ => .done
  | renameNode id name => (Workspace.renameNode id name).answer fun _ => .done
  | moveNode id position => (Workspace.moveNode id position).answer fun _ => .done
  | removeNode id => (Workspace.removeNode id).answer .node
  | connect source target sourceHandle targetHandle =>
    (Workspace.connect source target sourceHandle targetHandle).answer .id
  | disconnect id => (Workspace.disconnect id).answer .connection
  | clear => Workspace.clear.answer fun _ => .done
  | importText text => (Workspace.importText text).answer fun _ => .done
  | selectFormat format => (Workspace.selectFormat format).answer fun _ => .format format

/-- **A session**: the answers or refusals of requests, in order, and the workspace after them. -/
def runRequests (w : Workspace σ) :
    List Request → Noted (List (Except WorkspaceError Answer) × Workspace σ)
  | [] => pure ([], w)
  | r :: rest => do
    let (outcome, next) ← r.perform w
    let (outcomes, last) ← runRequests next rest
    return (outcome :: outcomes, last)

end CloudDiagram
