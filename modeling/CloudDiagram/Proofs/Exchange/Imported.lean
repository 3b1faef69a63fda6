import CloudDiagram.Proofs.Diagram.Storable
import CloudDiagram.Proofs.Exchange.Elements
import CloudDiagram.Proofs.Record.Finite

/-!
# Imported diagrams

* `ExchangeNode.finite_and_canonical`: a component that is read has a finite position and a canonical
  kind;
* **`storable_of_importDiagram`**: an imported diagram survives a save, whatever the text.
-/

namespace CloudDiagram

open Json

/-! ## What is read -/

theorem Position.isFinite_ofCarrier {data : Position.shape.Carrier}
    (h : Position.shape.Finite data) : (Position.ofCarrier data).isFinite = true := by
  obtain ⟨x, y, ⟨⟩⟩ := data
  exact Bool.and_eq_true_iff.2 ⟨h.1, h.2.1⟩

theorem ExchangeNode.finite_and_canonical {v : Value} {n : ExchangeNode}
    (h : ExchangeNode.ofValue v = .ok n) :
    n.position.isFinite = true ∧ n.kind.Canonical := by
  unfold ExchangeNode.ofValue Shape.ofValue at h
  cases hdecode : ExchangeNode.shape.decode .value (.ofValue v) with
  | error f => rw [hdecode] at h; cases h
  | ok data =>
    have hfinite := ExchangeNode.shape.finite_of_decode hdecode
    rw [hdecode] at h
    cases h
    obtain ⟨id, position, renderer, ⟨kind, label, name, icon, properties, ⟨⟩⟩, ⟨⟩⟩ := data
    refine ⟨?_, Kind.canonical_ofText kind⟩
    cases position with
    | none => rfl
    | some p => exact Position.isFinite_ofCarrier (hfinite.2.1 p rfl)

theorem storable_of_importDocument {text : String} {document : ExchangeDocument}
    (h : (importDocument text).run.result = .ok document) : document.toDiagram.Storable := by
  obtain ⟨_, _, _, -, -, -, hread, hids, -⟩ := importDocument_eq_ok_iff.1 h
  have hsound : ∀ n ∈ document.nodes, n.position.isFinite = true ∧ n.kind.Canonical := by
    intro n hn
    obtain ⟨i, hi⟩ := List.mem_iff_getElem?.1 hn
    obtain ⟨v, -, hv⟩ := exists_getElem?_of_forall₂ hread.flip hi
    exact ExchangeNode.finite_and_canonical hv
  refine ⟨?_, List.forall_mem_map.2 fun n hn => (hsound n hn).1,
    List.forall_mem_map.2 fun n hn => (hsound n hn).2⟩
  simp only [ExchangeDocument.toDiagram, List.map_map]
  exact hids

/-- **An imported diagram survives a save**, whatever the text. -/
theorem storable_of_importDiagram {text : String} {d : Diagram}
    (h : (importDiagram text).result = .ok d) : d.Storable := by
  rw [importDiagram, Attempt.result_map] at h
  cases hdocument : (importDocument text).run.result with
  | error e =>
    rw [hdocument] at h
    cases h
  | ok document =>
    rw [hdocument] at h
    cases h
    exact storable_of_importDocument hdocument

end CloudDiagram
