import CloudDiagram.Proofs.Workspace.Reopen

/-!
# Diagrams that a session reaches

* `holds_carryOut`: what holds of the diagram that a plan saves holds of the one that it leaves;
* **`sound_perform`**, `sound_of_mem_diagramsDuring`: ids stay distinct and positions finite in a
  request and in a session, over whatever store;
* **`storable_of_reachable`**: every diagram of a session survives a save, whatever text the session
  started from.
-/

namespace CloudDiagram

variable {σ : Type} [DiagramStore σ] {w : Workspace σ} {holds : Kind → Prop}

/-- A plan either keeps the diagram, empties it or replaces it by the one that it saves. -/
theorem holds_carryOut {P : Diagram → Prop} (hempty : P .empty) (h : P w.diagram) {p : Plan}
    (hp : p.Saves P) : P (p.carryOut w).2.diagram := by
  obtain hkept | hcleared | ⟨answer, next, rfl, -, hnext⟩ := diagram_carryOut p w
  · rw [hkept]
    exact h
  · rw [hcleared]
    exact hempty
  · rw [hnext]
    exact hp

/-- **A request keeps ids distinct and positions finite**, whether it is refused or not. -/
theorem sound_perform (hcanonical : ∀ k : Kind, k.Canonical → holds k) (h : w.diagram.Sound holds)
    {r : Request} (hr : r.KindHolds holds) (hsize : w.diagram.nodes.length < UInt64.size - 1) :
    (r.perform w).result.2.diagram.Sound holds := by
  rw [result_perform]
  exact holds_carryOut (Diagram.sound_empty holds) h (savesSound_plan hcanonical h hsize hr)

/-- **So does a session** in every state. -/
theorem sound_of_mem_diagramsDuring (hcanonical : ∀ k : Kind, k.Canonical → holds k)
    (h : w.diagram.Sound holds) {requests : List Request}
    (hkinds : ∀ r ∈ requests, r.KindHolds holds)
    (hsizes : ∀ d ∈ diagramsDuring w requests, d.nodes.length < UInt64.size - 1) :
    ∀ d ∈ diagramsDuring w requests, d.Sound holds := by
  induction requests generalizing w with
  | nil => exact List.forall_mem_singleton.2 h
  | cons r rest ih =>
    obtain ⟨hr, hrest⟩ := List.forall_mem_cons.1 hkinds
    obtain ⟨hnow, hlater⟩ := List.forall_mem_cons.1 hsizes
    exact List.forall_mem_cons.2 ⟨h, ih (sound_perform hcanonical h hr hnow) hrest hlater⟩

/-- **Every diagram that is reached survives a save**: whatever a text in memory holds, a workspace
opens on it, and in every state of every session that follows the ids are distinct, the positions
finite and the kinds canonical. -/
theorem storable_of_reachable (slot : Option String) (config : GeneratorConfig) :
    ∃ w, (Workspace.ofStore (MemoryStore.mk slot) config).result = .ok w ∧
      ∀ requests : List Request, (∀ r ∈ requests, r.KindNamed) →
        (∀ d ∈ diagramsDuring w requests, d.nodes.length < UInt64.size - 1) →
        ∀ d ∈ diagramsDuring w requests, d.Storable := by
  refine ⟨_, result_ofStore _ config, fun requests hkinds hsizes d hd => ?_⟩
  have hfirst := Diagram.storable_iff_sound.1 (MemoryStore.mk slot).storable_diagram
  have hsound := sound_of_mem_diagramsDuring (fun _ hk => hk) hfirst
    (fun r hr => (hkinds r hr).canonical) hsizes
  exact Diagram.storable_iff_sound.2 (hsound d hd)

/-- A document whose ids leave only gaps for new ones. -/
def crowdedText : String :=
  "\x7b\"nodes\":[\x7b\"id\":\"node-18446744073709551615\",\"data\":[\"vpc\"]\x7d,
    \x7b\"id\":\"node-+1\",\"data\":[\"Vpc\"]\x7d],\"edges\":[]\x7d"

/-- A session on it, with refusals. -/
def crowdedRequests : List Request := [
  .quickAdd,
  .addComponent (.ofText "server") ⟨.ofNat 1, .infinite true⟩,
  .addComponent (.ofText "server ") .origin,
  .moveNode "node-2" ⟨.nan, .zero⟩,
  .importText "[]",
  .removeNode "node-+1",
  .quickAdd]

theorem storable_of_reachable_crowded :
    ∃ w, (Workspace.ofStore (MemoryStore.mk (some crowdedText)) .default).result = .ok w ∧
      (∀ r ∈ crowdedRequests, r.KindNamed) ∧
      (∀ d ∈ diagramsDuring w crowdedRequests, d.nodes.length < UInt64.size - 1) ∧
      (diagramsDuring w crowdedRequests).map (·.nodes.length) = [2, 3, 3, 4, 4, 4, 3, 4] ∧
      ∀ d ∈ diagramsDuring w crowdedRequests, d.Storable := by
  obtain ⟨w, hopen, hreach⟩ := storable_of_reachable (some crowdedText) .default
  have hkinds : ∀ r ∈ crowdedRequests, r.KindNamed := by
    simp [crowdedRequests, Request.KindNamed]
  have hw := Except.ok.inj (hopen.symm.trans (result_ofStore _ _))
  have hlengths : (diagramsDuring w crowdedRequests).map (·.nodes.length) =
      [2, 3, 3, 4, 4, 4, 3, 4] := by
    subst hw
    decide +kernel
  have hsizes : ∀ d ∈ diagramsDuring w crowdedRequests, d.nodes.length < UInt64.size - 1 := by
    have hall : ∀ n ∈ (diagramsDuring w crowdedRequests).map (·.nodes.length),
        n < UInt64.size - 1 := by
      rw [hlengths]
      decide
    exact List.forall_mem_map.1 hall
  exact ⟨w, hopen, hkinds, hsizes, hlengths, hreach crowdedRequests hkinds hsizes⟩

end CloudDiagram
