import CloudDiagram.Proofs.Workspace.Edited
import CloudDiagram.Proofs.Workspace.Steady

/-!
# Sessions keep the connections a proper graph

* `keptByEdits_anchored`, `keptByEdits_wellLinked`: no edit makes a connection to a missing component
  or spoils a proper graph;
* **`wellLinked_of_mem_diagramsDuring`**: every diagram of a session is a proper graph if the first one
  and the imported ones are, whatever the store refuses.
-/

namespace CloudDiagram

open Diagram

theorem keptByEdits_anchored : KeptByEdits Anchored where
  empty := by simp [Anchored, Diagram.empty]
  edited := by
    intro d next answer h hedited
    cases hedited with
    | placed hid =>
      refine h.mono fun other hother => ?_
      rw [List.map_append]
      exact List.mem_append_left _ hother
    | changed id hchange =>
      refine h.mono ?_
      rw [map_id_changeFirst hchange]
      exact List.Subset.refl _
    | removed hfind => exact h.removeNode _
    | joined hnew =>
      obtain ⟨⟨-, hsource, htarget, -⟩, rfl⟩ := newConnection_eq_ok_iff.1 hnew
      exact h.join hsource htarget
    | parted hfind => exact h.subset List.eraseP_subset

/-- **Edits keep a proper graph.** A component that is removed takes its connections along, so that its
id can be given again, and a new connection has a free id, whatever the others are called. -/
theorem keptByEdits_wellLinked : KeptByEdits WellLinked where
  empty := ⟨List.nodup_nil, keptByEdits_anchored.empty, by simp [Diagram.empty], List.nodup_nil⟩
  edited := by
    intro d next answer h hedited
    have hanchored := keptByEdits_anchored.edited h.anchored hedited
    cases hedited with
    | placed hid => exact h.withNodes hanchored
    | changed id hchange => exact h.withNodes hanchored
    | removed hfind => exact h.sublist List.filter_sublist hanchored
    | joined hnew =>
      obtain ⟨⟨hloop, hsource, htarget, hends⟩, rfl⟩ := newConnection_eq_ok_iff.1 hnew
      exact h.join (d.freeEdgeId_fresh _ _) hsource htarget hloop hends
    | parted hfind => exact h.sublist List.eraseP_sublist hanchored

variable {σ : Type} [DiagramStore σ]

/-- **The connections stay a proper graph.** In a session that starts from a well linked diagram and
in which every document that is imported is well linked, every diagram is, over whatever store and
whichever requests are refused. -/
theorem wellLinked_of_mem_diagramsDuring {w : Workspace σ} (hstart : w.diagram.WellLinked)
    {requests : List Request} (himports : ∀ d ∈ importedDuring w requests, d.WellLinked) :
    ∀ d ∈ diagramsDuring w requests, d.WellLinked :=
  keptByEdits_wellLinked.session hstart himports

/-- A diagram in which a connection has the id that another one would get. -/
def Diagram.hyphenated : Diagram where
  nodes := ["a-b", "c", "a", "b-c"].map fun id => Node.ofKind id .server id
  edges := [⟨"edge-a-b-c-2", "a", "c", none, none, none⟩]

/-- Two components and a connection between them, as a document. -/
def pairText : String :=
  "\x7b\"nodes\":[\x7b\"id\":\"a\",\"data\":[\"x\"]\x7d,\x7b\"id\":\"b\",\"data\":[\"x\"]\x7d],
    \"edges\":[[\"e\",\"a\",\"b\"]]\x7d"

/-- A session on that diagram, over a store that refuses every other save. -/
def hyphenatedRequests : List Request := [
  .connect "a-b" "c" none none,
  .connect "a" "b-c" none none,
  .connect "a" "b-c" none none,
  .connect "a" "b-c" none none,
  .removeNode "c",
  .removeNode "c",
  .connect "a" "a" none none,
  .quickAdd,
  .importText pairText,
  .clear]

theorem wellLinked_of_mem_diagramsDuring_hyphenated :
    let w := { Workspace.blank UnreliableStore.sketch with diagram := .hyphenated }
    w.diagram.WellLinked ∧ (∀ d ∈ importedDuring w hyphenatedRequests, d.WellLinked) ∧
      (diagramsDuring w hyphenatedRequests).map (fun d => d.edges.map (·.id)) = [
        ["edge-a-b-c-2"], ["edge-a-b-c-2", "edge-a-b-c"], ["edge-a-b-c-2", "edge-a-b-c"],
        ["edge-a-b-c-2", "edge-a-b-c", "edge-a-b-c-3"],
        ["edge-a-b-c-2", "edge-a-b-c", "edge-a-b-c-3"],
        ["edge-a-b-c-2", "edge-a-b-c", "edge-a-b-c-3"],
        ["edge-a-b-c-3"], ["edge-a-b-c-3"], ["edge-a-b-c-3"], ["e"], ["e"]] ∧
      ∀ d ∈ diagramsDuring w hyphenatedRequests, d.WellLinked := by
  intro w
  have hstart : w.diagram.WellLinked := by decide +kernel
  have himports : ∀ d ∈ importedDuring w hyphenatedRequests, d.WellLinked := by decide +kernel
  exact ⟨hstart, himports, by decide +kernel, wellLinked_of_mem_diagramsDuring hstart himports⟩

end CloudDiagram
