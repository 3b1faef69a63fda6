import CloudDiagram.Proofs.Workspace.Linked
import CloudDiagram.Proofs.Workspace.Reopen

/-!
# New components and their connections

A new component gets the first id after those of the others. A document may hold connections to missing
components, and one of these may already lead to that id.

* `Diagram.Connected`, `Diagram.Dangling`, `Diagram.detached`: connections at an id, with and without a
  component of that id, and the diagram without them;
* `exists_save_of_carryOut`, `removeNode_of_placed`: what is left of a plan that answers with an id, and
  a component that is removed as soon as it is placed;
* **`placed_connected_iff`**: a new component is connected just when such a connection was there, and
  never in a session without connections to missing components;
* `placed_connected`: a connection that was there.
-/

namespace CloudDiagram

namespace Diagram

/-- **A connection starts or ends at the id.** -/
def Connected (d : Diagram) (id : String) : Prop := ∃ c ∈ d.edges, c.source = id ∨ c.target = id

/-- **A connection leads to the id, but no component has it.** -/
def Dangling (d : Diagram) (id : String) : Prop := id ∉ d.nodeIds ∧ d.Connected id

/-- The diagram without the connections at an id. -/
def detached (d : Diagram) (id : String) : Diagram :=
  { d with edges := d.edges.filter fun c => !c.touches id }

instance (d : Diagram) (id : String) : Decidable (d.Connected id) := by
  unfold Connected; infer_instance

instance (d : Diagram) (id : String) : Decidable (d.Dangling id) := by
  unfold Dangling; infer_instance

variable {d : Diagram} {id : String}

theorem detached_eq_self_iff : d.detached id = d ↔ ¬ d.Connected id := by
  have hedges : d.detached id = d ↔ (d.edges.filter fun c => !c.touches id) = d.edges :=
    ⟨congrArg edges, fun h => by rw [detached, h]⟩
  rw [hedges, List.filter_eq_self]
  simp [Connected, Connection.touches]

theorem Anchored.not_dangling (h : d.Anchored) : ¬ d.Dangling id := by
  rintro ⟨hmissing, c, hc, rfl | rfl⟩
  · exact hmissing (h c hc).1
  · exact hmissing (h c hc).2

end Diagram

variable {σ : Type} [DiagramStore σ] {w next : Workspace σ} {id : String}

theorem exists_save_of_carryOut {p : Plan} (h : p.carryOut w = (.ok (.id id), next)) :
    ∃ saved, p = .save (.id id) saved ∧ next.diagram = saved := by
  cases p with
  | refuse e => cases h
  | save answer saved =>
    rw [Plan.carryOut] at h
    generalize DiagramStore.save w.store saved = stored at h
    obtain ⟨_ | _, store⟩ := stored
    · cases h
    · cases h
      exact ⟨saved, rfl, rfl⟩
  | clear =>
    rw [Plan.carryOut] at h
    generalize DiagramStore.clear w.store = cleared at h
    obtain ⟨_ | _, store⟩ := cleared <;> cases h
  | select format => cases h

/-- **A component that is removed as soon as it is placed** takes along what was connected to its id
before. -/
theorem removeNode_of_placed {d : Diagram} {n : Node} (hfresh : n.id ∉ d.nodeIds) :
    (Request.removeNode n.id).plan { d with nodes := d.nodes ++ [n] } =
      .save (.node n) (d.detached n.id) := by
  have hfind := find?_append_of_fresh hfresh
  have herase : (d.nodes ++ [n]).eraseP (·.id == n.id) = d.nodes := by
    rw [List.eraseP_append_right]
    · simp
    · intro m hm hid
      exact hfresh (Diagram.mem_nodeIds.2 ⟨m, hm, eq_of_beq hid⟩)
  rw [Request.plan, Diagram.result_removeNode]
  dsimp only
  rw [hfind, herase]
  rfl

/-- **A new component is connected just when a connection to its id was there.** In every state of a
session it gets an id that no component has, and the connections stay as they are: those at the id are
the ones that led to it before. Removing it at once gives the diagram back without these. So it starts
unconnected in every session in which neither the first diagram nor an imported one has a connection
to a missing component. -/
theorem placed_connected_iff (w : Workspace σ) (requests : List Request)
    (hsize : (runRequests w requests).result.2.diagram.nodes.length < UInt64.size - 1)
    {r : Request} (hr : r.Places)
    (hperform : (r.perform (runRequests w requests).result.2).result = (.ok (.id id), next)) :
    let now := (runRequests w requests).result.2.diagram
    (id ∉ now.nodeIds ∧ next.diagram.edges = now.edges) ∧
      (next.diagram.Connected id ↔ now.Dangling id) ∧
      (∃ n, ((Request.removeNode id).perform next).result =
        (Plan.save (.node n) (now.detached id)).carryOut next) ∧
      (now.detached id = now ↔ ¬ now.Dangling id) ∧
      (w.diagram.Anchored → (∀ d ∈ importedDuring w requests, d.Anchored) →
        ¬ next.diagram.Connected id) := by
  intro now
  rw [result_perform] at hperform
  obtain ⟨saved, hplan, hsaved⟩ := exists_save_of_carryOut hperform
  obtain ⟨n, hid, hanswer, rfl⟩ := placed_of_plan hr hplan
  cases hanswer
  have hfresh : n.id ∉ now.nodeIds := hid ▸ Diagram.nextNodeId_fresh hsize
  have hedges : next.diagram.edges = now.edges := by rw [hsaved]
  have hconnected : next.diagram.Connected n.id ↔ now.Dangling n.id := by
    rw [Diagram.Connected, hedges, Diagram.Dangling]
    exact ⟨fun h => ⟨hfresh, h⟩, fun h => h.2⟩
  refine ⟨⟨hfresh, hedges⟩, hconnected, ⟨n, ?_⟩, ?_, ?_⟩
  · rw [result_perform, hsaved, removeNode_of_placed hfresh]
  · rw [Diagram.detached_eq_self_iff, Diagram.Dangling]
    exact ⟨fun h hdangling => h hdangling.2, fun h hnow => h ⟨hfresh, hnow⟩⟩
  · intro hstart himports
    have hanchored := keptByEdits_anchored.session hstart himports _
      (mem_diagramsDuring_last w requests)
    rw [hconnected]
    exact hanchored.not_dangling

/-- A document with a connection to a component that is missing. -/
def elsewhereText : String :=
  "\x7b\"nodes\":[\x7b\"id\":\"a\",\"data\":[\"x\"]\x7d],\"edges\":[[\"e\",\"a\",\"node-2\"]]\x7d"

theorem placed_connected_iff_elsewhere :
    let now := (runRequests (Workspace.blank (MemoryStore.mk none))
      [.importText elsewhereText]).result.2
    now.diagram.nodes.length < UInt64.size - 1 ∧ Request.quickAdd.Places ∧
      now.diagram.Dangling "node-2" ∧
      ∃ next, (Request.quickAdd.perform now).result = (.ok (.id "node-1"), next) ∧
        ¬ next.diagram.Connected "node-1" ∧ now.diagram.detached "node-1" = now.diagram := by
  intro now
  have hnow : now.diagram.nodes.length < UInt64.size - 1 ∧ now.diagram.Dangling "node-2" ∧
      ¬ now.diagram.Dangling "node-1" ∧
      (Request.quickAdd.perform now).result.1 = .ok (.id "node-1") := by
    decide +kernel
  obtain ⟨hsize, helsewhere, hfree, hanswer⟩ := hnow
  obtain ⟨-, hconnected, -, hdetached, -⟩ := placed_connected_iff
    (Workspace.blank (MemoryStore.mk none)) [.importText elsewhereText] hsize (r := .quickAdd) trivial
    (Prod.ext hanswer rfl)
  exact ⟨hsize, trivial, helsewhere, _, Prod.ext hanswer rfl, hfree ∘ hconnected.1,
    hdetached.2 hfree⟩

/-- A document with a connection from the id that a new component gets. -/
def danglingText : String :=
  "\x7b\"nodes\":[],\"edges\":[\x7b\"id\":\"e\",\"source\":\"node-1\",\"target\":\"x\"\x7d]\x7d"

/-- **A new component that is connected from the start**: the connection from its id was imported before
it, and removing it takes the connection along. -/
theorem placed_connected :
    ∃ w, (Workspace.ofStore (MemoryStore.mk none) .default).result = .ok w ∧
      let now := (runRequests w [.importText danglingText]).result.2
      ∃ next, (Request.quickAdd.perform now).result = (.ok (.id "node-1"), next) ∧
        next.diagram.Connected "node-1" ∧
        ((Request.removeNode "node-1").perform next).result.2.diagram ≠ now.diagram := by
  refine ⟨_, result_ofStore _ _, ?_⟩
  intro now
  have hnow : (Request.quickAdd.perform now).result.1 = .ok (.id "node-1") ∧
      (Request.quickAdd.perform now).result.2.diagram.Connected "node-1" ∧
      ((Request.removeNode "node-1").perform
        (Request.quickAdd.perform now).result.2).result.2.diagram ≠ now.diagram := by
    decide +kernel
  exact ⟨_, Prod.ext hnow.1 rfl, hnow.2⟩

end CloudDiagram
