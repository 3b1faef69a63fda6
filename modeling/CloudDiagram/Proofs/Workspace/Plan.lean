import CloudDiagram.Workspace.Request
import CloudDiagram.Proofs.Notice

/-!
# What a request comes to

* `Diagram.result_addComponent`, … `Diagram.result_removeEdge`: the edits of a diagram;
* `Plan`, `Plan.carryOut`: what is left of a request once its arguments are checked, and its effect on
  a workspace;
* `diagram_carryOut`: the diagram that a plan leaves;
* `Request.plan`: the plan of a request, which is made from the diagram alone;
* **`result_perform`**: a request has the effect of its plan;
* `diagramsDuring`: the diagrams of a session;
* `result_runRequests_cons`, `result_runRequests_append`: a session, one request or one half at a time.
-/

namespace CloudDiagram

/-! ## Edits -/

namespace Diagram

variable (d : Diagram)

theorem result_addComponent (kind : Kind) (position : Position) :
    (addComponent kind position d).run.result = .ok (d.nextNodeId, { d with
      nodes := d.nodes ++ [{ Node.ofKind d.nextNodeId kind kind.label with
        label := some kind.label, position }] }) := rfl

theorem result_quickAdd :
    (quickAdd d).run.result = .ok (d.nextNodeId, { d with
      nodes := d.nodes ++ [{ Node.ofKind d.nextNodeId .server "Server" with
        label := some "New Server", position := quickAddPosition }] }) := rfl

theorem result_modifyNode (id : String) (change : Node → Node) :
    (modifyNode id change d).run.result =
      match d.modifyNode? id change with
      | none => .error (.nodeNotFound id)
      | some next => .ok ((), next) := by
  unfold modifyNode
  cases d.modifyNode? id change <;> rfl

theorem eq_of_modifyNode {d next : Diagram} {id : String} {change : Node → Node} {a : Unit}
    (h : (modifyNode id change d).run.result = .ok (a, next)) :
    d.nodes.any (·.id == id) = true ∧ next = { d with nodes := changeFirst id change d.nodes } := by
  rw [result_modifyNode, modifyNode?] at h
  by_cases hany : d.nodes.any (·.id == id) = true
  · rw [if_pos hany] at h
    cases h
    exact ⟨hany, rfl⟩
  · rw [if_neg hany] at h
    cases h

theorem result_removeNode (id : String) :
    (removeNode id d).run.result =
      match d.nodes.find? (·.id == id) with
      | none => .error (.nodeNotFound id)
      | some n => .ok (n, ⟨d.nodes.eraseP (·.id == id), d.edges.filter fun e => !e.touches id⟩) := by
  unfold removeNode
  cases d.nodes.find? (·.id == id) <;> rfl

theorem result_addEdge (c : Connection) :
    (addEdge c d).run.result = .ok (c.id, { d with edges := d.edges ++ [c] }) := rfl

theorem result_removeEdge (id : String) :
    (removeEdge id d).run.result =
      match d.edges.find? (·.id == id) with
      | none => .error (.edgeNotFound id)
      | some c => .ok (c, { d with edges := d.edges.eraseP (·.id == id) }) := by
  unfold removeEdge
  cases d.edges.find? (·.id == id) <;> rfl

end Diagram

/-! ## Plans -/

/-- **What is left of a request** once its arguments are checked. -/
inductive Plan
  | refuse (e : WorkspaceError)
  | save (answer : Answer) (next : Diagram)
  | clear
  | select (format : Format)

/-- The plan of an edit. -/
def Plan.ofEdit {α : Type} (edited : Except WorkspaceError (α × Diagram)) (answer : α → Answer) :
    Plan :=
  match edited with
  | .error e => .refuse e
  | .ok (a, next) => .save (answer a) next

/-- A plan at a position, which has to be finite. -/
def Plan.atPosition (position : Position) (plan : Plan) : Plan :=
  if position.isFinite then plan else .refuse (.invalidPosition position)

theorem eq_save_of_ofEdit {α : Type} {edited : Except WorkspaceError (α × Diagram)}
    {f : α → Answer} {answer : Answer} {next : Diagram}
    (h : Plan.ofEdit edited f = .save answer next) : ∃ a, edited = .ok (a, next) ∧ answer = f a := by
  cases edited with
  | error e => cases h
  | ok result =>
    cases h
    exact ⟨result.1, rfl, rfl⟩

theorem eq_save_of_atPosition {p : Position} {plan : Plan} {answer : Answer} {next : Diagram}
    (h : plan.atPosition p = .save answer next) : plan = .save answer next := by
  unfold Plan.atPosition at h
  split at h
  · exact h
  · cases h

/-- **The plan of a request**, from the diagram alone. -/
def Request.plan (d : Diagram) : Request → Plan
  | addComponent kind position =>
    .atPosition position (.ofEdit (Diagram.addComponent kind position d).run.result .id)
  | quickAdd => .ofEdit (Diagram.quickAdd d).run.result .id
  | setProperty id key value =>
    .ofEdit (Diagram.modifyNode id (fun n => { n with properties := n.properties.insert key value })
      d).run.result fun _ => .done
  | renameNode id name =>
    .ofEdit (Diagram.modifyNode id (fun n => { n with name }) d).run.result fun _ => .done
  | moveNode id position =>
    .atPosition position
      (.ofEdit (Diagram.modifyNode id (fun n => { n with position }) d).run.result fun _ => .done)
  | removeNode id => .ofEdit (Diagram.removeNode id d).run.result .node
  | connect source target sourceHandle targetHandle =>
    match d.newConnection source target sourceHandle targetHandle with
    | .error e => .refuse e
    | .ok c => .ofEdit (Diagram.addEdge c d).run.result .id
  | disconnect id => .ofEdit (Diagram.removeEdge id d).run.result .connection
  | clear => .clear
  | importText text =>
    match (importDiagram text).result with
    | .error e => .refuse (.badImport e)
    | .ok imported => .save .done imported
  | selectFormat format => .select format

variable {σ α : Type} [DiagramStore σ]

/-- **The effect of a plan.** -/
def Plan.carryOut : Plan → Workspace σ → Except WorkspaceError Answer × Workspace σ
  | refuse e, w => (.error e, w)
  | save answer next, w =>
    match DiagramStore.save w.store next with
    | (.error e, store) => (.error (.store e), { w with store })
    | (.ok (), store) => (.ok answer, { w with diagram := next, store })
  | clear, w =>
    match DiagramStore.clear w.store with
    | (.error e, store) => (.error (.store e), { w with store })
    | (.ok (), store) => (.ok .done, { w with diagram := .empty, store })
  | select format, w => (.ok (.format format), { w with format })

/-- **What a plan leaves**: the diagram as it was, an empty one or the one that it saves. -/
theorem diagram_carryOut (p : Plan) (w : Workspace σ) :
    (p.carryOut w).2.diagram = w.diagram ∨ (p.carryOut w).2.diagram = .empty ∨
      ∃ answer next, p = .save answer next ∧ (p.carryOut w).1 = .ok answer ∧
        (p.carryOut w).2.diagram = next := by
  cases p with
  | refuse e => exact .inl rfl
  | save answer next =>
    rw [Plan.carryOut]
    obtain ⟨_ | _, store⟩ := DiagramStore.save w.store next
    · exact .inl rfl
    · exact .inr (.inr ⟨answer, next, rfl, rfl, rfl⟩)
  | clear =>
    rw [Plan.carryOut]
    obtain ⟨_ | _, store⟩ := DiagramStore.clear w.store
    · exact .inl rfl
    · exact .inr (.inl rfl)
  | select format => exact .inl rfl

omit [DiagramStore σ] in
theorem result_answer (operation : Operation σ α) (answer : α → Answer) (w : Workspace σ) :
    (operation.answer answer w).result =
      ((operation w).result.1.map answer, (operation w).result.2) := rfl

theorem result_save (next : Diagram) (result : α) (answer : α → Answer) (w : Workspace σ) :
    ((Workspace.save next result).answer answer w).result =
      (Plan.save (answer result) next).carryOut w := by
  rw [result_answer, Workspace.save, Plan.carryOut]
  obtain ⟨outcome, store⟩ := DiagramStore.save w.store next
  cases outcome <;> rfl

theorem result_update (edit : Edit α) (answer : α → Answer) (w : Workspace σ) :
    ((Workspace.update edit).answer answer w).result =
      (Plan.ofEdit (edit w.diagram).run.result answer).carryOut w := by
  rw [result_answer, Workspace.update, Noted.result_bind]
  cases (edit w.diagram).run.result with
  | error e => rfl
  | ok edited => exact result_save edited.2 edited.1 answer w

theorem result_atPosition (position : Position) {operation : Operation σ α} {answer : α → Answer}
    {w : Workspace σ} {plan : Plan} (h : (operation.answer answer w).result = plan.carryOut w) :
    ((Workspace.atPosition position operation).answer answer w).result =
      (plan.atPosition position).carryOut w := by
  unfold Workspace.atPosition Plan.atPosition
  split
  · exact h
  · rfl

/-- **A request has the effect of its plan.** -/
theorem result_perform (r : Request) (w : Workspace σ) :
    (r.perform w).result = (r.plan w.diagram).carryOut w := by
  cases r with
  | addComponent kind position => exact result_atPosition position (result_update _ _ w)
  | quickAdd => exact result_update _ _ w
  | setProperty id key value => exact result_update _ _ w
  | renameNode id name => exact result_update _ _ w
  | moveNode id position => exact result_atPosition position (result_update _ _ w)
  | removeNode id => exact result_update _ _ w
  | connect source target sourceHandle targetHandle =>
    rw [Request.perform, result_answer, Workspace.connect, Request.plan]
    cases w.diagram.newConnection source target sourceHandle targetHandle with
    | error e => rfl
    | ok c => exact result_update (Diagram.addEdge c) .id w
  | disconnect id => exact result_update _ _ w
  | clear =>
    rw [Request.perform, result_answer, Workspace.clear, Request.plan, Plan.carryOut]
    obtain ⟨outcome, store⟩ := DiagramStore.clear w.store
    cases outcome <;> rfl
  | importText text =>
    rw [Request.perform, result_answer, Workspace.importText, Noted.result_bind, Request.plan]
    cases (importDiagram text).result with
    | error e => rfl
    | ok d =>
      refine Eq.trans ?_ (result_save d () (fun _ => .done) w)
      rw [result_answer]
      dsimp only
      generalize Workspace.save d () w = saved
      obtain ⟨⟨outcome, next⟩, notices⟩ := saved
      cases outcome <;> rfl
  | selectFormat format => rfl

/-! ## Sessions -/

/-- **The diagrams of a session**, at its start and after each request. -/
def diagramsDuring (w : Workspace σ) : List Request → List Diagram
  | [] => [w.diagram]
  | r :: rest => w.diagram :: diagramsDuring (r.perform w).result.2 rest

theorem mem_diagramsDuring_self (w : Workspace σ) (requests : List Request) :
    w.diagram ∈ diagramsDuring w requests := by
  cases requests <;> exact List.mem_cons_self

theorem result_runRequests_cons (w : Workspace σ) (r : Request) (rest : List Request) :
    (runRequests w (r :: rest)).result =
      ((r.perform w).result.1 :: (runRequests (r.perform w).result.2 rest).result.1,
        (runRequests (r.perform w).result.2 rest).result.2) := rfl

theorem mem_diagramsDuring_last (w : Workspace σ) (requests : List Request) :
    (runRequests w requests).result.2.diagram ∈ diagramsDuring w requests := by
  induction requests generalizing w with
  | nil => exact List.mem_singleton_self _
  | cons r rest ih => exact List.mem_cons_of_mem _ (ih _)

theorem result_runRequests_append (w : Workspace σ) (before after : List Request) :
    (runRequests w (before ++ after)).result =
      ((runRequests w before).result.1 ++
          (runRequests (runRequests w before).result.2 after).result.1,
        (runRequests (runRequests w before).result.2 after).result.2) := by
  induction before generalizing w with
  | nil => rfl
  | cons r rest ih =>
    rw [List.cons_append, result_runRequests_cons, ih, result_runRequests_cons]
    rfl

/-- A session in which some requests are refused. -/
def sketchRequests : List Request := [
  .quickAdd,
  .clear,
  .quickAdd,
  .addComponent (.ofText "lambda") ⟨.ofNat 5, .ofRank true 4609434218613702656 (by decide)⟩,
  .connect "node-1" "node-2" none (some "in"),
  .moveNode "node-1" ⟨.nan, .zero⟩,
  .selectFormat .yaml,
  .setProperty "node-2" "memorySize" (.text "512"),
  .removeNode "node-9",
  .importText "[]",
  .addComponent (.ofText "quantum") .origin,
  .removeNode "node-1"]

end CloudDiagram
