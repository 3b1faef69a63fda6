import CloudDiagram.Proofs.Exchange.Elements
import CloudDiagram.Proofs.Record.Direct

/-!
# Two ways to a document

* `acceptAll_unknown`: members that are not known leave a record as it is;
* `decode_of_importDocument`: a document that is imported can be decoded from the value of its text;
* **`ofText_of_importDiagram`**: so can it straight from a text that repeats no key, and it stands for
  the diagram that was imported.
-/

namespace CloudDiagram

open Json

/-! ## Members that are not known -/

theorem accept_unknown {source : Source} {key : String} {w : Written} (hw : w.passed = .ok ()) :
    (fields : Fields) → {slots : fields.Slots} → key ∉ fields.names →
    fields.accept source slots key w = .ok slots
  | .nil, (), _ => by
    rw [Fields.accept, hw]
    rfl
  | .cons name _ _ rest, (slot, slots), hkey => by
    rw [Fields.names, List.mem_cons, not_or] at hkey
    exact (accept_ne hkey.1).2 ⟨slots, accept_unknown hw rest hkey.2, rfl⟩

theorem acceptAll_unknown {source : Source} {fields : Fields} {slots : fields.Slots}
    {members : List (String × Value)} (h : ∀ m ∈ members, m.1 ∉ fields.names) :
    acceptAll source fields slots (writtenEntries members) = .ok slots := by
  induction members with
  | nil => rfl
  | cons m rest ih =>
    rw [List.forall_mem_cons] at h
    rw [writtenEntries_cons, acceptAll_cons]
    exact bind_eq_ok.2 ⟨slots, accept_unknown (passed_of_value (value_ofValue m.2)) _ h.1, ih h.2⟩

/-! ## Lists of elements -/

theorem exists_data_of_forall₂ {α : Type} {item : Shape} {f : item.Carrier → α}
    {values : List Value} {elements : List α}
    (h : List.Forall₂ (fun v a => (item.ofValue v).map f = .ok a) values elements) :
    ∃ data, (writtenItems values).mapM (item.decode .value) = .ok data ∧ data.map f = elements := by
  induction h with
  | nil => exact ⟨[], rfl, rfl⟩
  | @cons v a values elements hv _ ih =>
    obtain ⟨data, hdata, rfl⟩ := ih
    obtain ⟨c, hc, rfl⟩ := map_eq_ok.1 hv
    rw [mapM_eq_ok_iff] at hdata
    exact ⟨c :: data, mapM_eq_ok_iff.2 (.cons hc hdata), rfl⟩

theorem decode_sequence {item : Shape} {values : List Value} {data : List item.Carrier}
    (h : (writtenItems values).mapM (item.decode .value) = .ok data) :
    (Shape.sequence item).decode .value (.ofValue (.list values)) = .ok data := by
  rw [Written.ofValue, Shape.decode, h]
  rfl

/-! ## Documents -/

theorem exists_perm_cons_of_mem {α : Type} {a : α} {l : List α} (h : a ∈ l) :
    ∃ others, l.Perm (a :: others) := by
  obtain ⟨before, after, rfl⟩ := List.append_of_mem h
  exact ⟨before ++ after, List.perm_middle⟩

/-- **An object with two lists** is decoded as a document, whatever other members it has. -/
theorem decode_document {members : List (String × Value)} {u v : Value}
    {nodes : List ExchangeNode.shape.Carrier} {edges : List Connection.shape.Carrier}
    (hkeys : (members.map Prod.fst).Nodup) (hu : ("nodes", u) ∈ members)
    (hv : ("edges", v) ∈ members)
    (hnodes : (Shape.sequence ExchangeNode.shape).decode .value (.ofValue u) = .ok nodes)
    (hedges : (Shape.sequence Connection.shape).decode .value (.ofValue v) = .ok edges) :
    ExchangeDocument.shape.ofValue (.object members) = .ok (nodes, edges, ()) := by
  obtain ⟨others, hothers⟩ := exists_perm_cons_of_mem hu
  have hv : ("edges", v) ∈ others := by simpa using hothers.mem_iff.1 hv
  obtain ⟨unknown, hunknown⟩ := exists_perm_cons_of_mem hv
  have hperm : members.Perm (("nodes", u) :: ("edges", v) :: unknown) :=
    hothers.trans (hunknown.cons _)
  have hnodup := (hperm.map Prod.fst).nodup_iff.1 hkeys
  simp only [List.map_cons, List.nodup_cons, List.mem_cons, not_or] at hnodup
  have hne : "edges" ≠ "nodes" := by decide
  have hentries := hperm.symm.map fun m => (m.1, Written.ofValue m.2)
  refine decode_record_object (s := (some nodes, some edges, ())) (acceptAll_perm hentries ?_ ?_) rfl
  · rw [← writtenEntries, keys_writtenEntries]
    exact (hperm.map Prod.fst).nodup_iff.1 hkeys
  · -- the two lists first, then what is passed over
    refine bind_eq_ok.2 ⟨_, accept_self.2 ⟨rfl, nodes, hnodes, rfl⟩, bind_eq_ok.2 ⟨_,
      (accept_ne hne).2 ⟨_, accept_self.2 ⟨rfl, edges, hedges, rfl⟩, rfl⟩,
      acceptAll_unknown fun m hm => ?_⟩⟩
    have hkey : m.1 ∈ unknown.map Prod.fst := List.mem_map_of_mem hm
    simp only [Fields.names, List.mem_cons, List.not_mem_nil, or_false, not_or]
    exact ⟨fun h => hnodup.1.2 (h ▸ hkey), fun h => hnodup.2.1 (h ▸ hkey)⟩

theorem ofValue_of_importDocument {text : String} {document : ExchangeDocument}
    (h : (importDocument text).run.result = .ok document) :
    ∃ v data, Value.ofText text.toList = .ok v ∧ ExchangeDocument.shape.ofValue v = .ok data ∧
      ExchangeDocument.ofCarrier data = document := by
  obtain ⟨members, rawNodes, rawEdges, hmembers, hnodes, hedges, hreadNodes, -, hreadEdges⟩ :=
    importDocument_eq_ok_iff.1 h
  obtain ⟨nodes, hnodesData, hnodesEq⟩ := exists_data_of_forall₂ hreadNodes
  obtain ⟨edges, hedgesData, hedgesEq⟩ := exists_data_of_forall₂ hreadEdges
  refine ⟨.object members, (nodes, edges, ()), hmembers, decode_document
    (nodup_keys_of_ofText hmembers) hnodes hedges (decode_sequence hnodesData)
    (decode_sequence hedgesData), ?_⟩
  rw [ExchangeDocument.ofCarrier, hnodesEq, hedgesEq]

/-- **An imported diagram is decoded straight from its text** too, if no object of the text repeats a
key. -/
theorem ofText_of_importDiagram {text : String} {d : Diagram}
    (himport : (importDiagram text).result = .ok d)
    (hkeys : (Document.ofText text.toList).content.DistinctKeys) :
    ∃ document, ExchangeDocument.ofText text = .ok document ∧ document.toDiagram = d := by
  rw [importDiagram, Attempt.result_map, map_eq_ok] at himport
  obtain ⟨document, hdocument, rfl⟩ := himport
  obtain ⟨v, data, hv, hdata, rfl⟩ := ofValue_of_importDocument hdocument
  refine ⟨_, ?_, rfl⟩
  rw [ExchangeDocument.ofText, Shape.ofText_of_value hv hkeys hdata]
  rfl

/-- A document whose members are in no order, with one that is not known and lists in the place of
records. -/
def shuffledText : String :=
  "\x7b\"v\":null,\"nodes\":[\x7b\"id\":\"a\",\"data\":[\"x\"]\x7d],\"edges\":[[\"e\",\"a\",\"b\"]]\x7d"

theorem ofText_of_importDiagram_shuffled :
    let d : Diagram := ⟨[Node.ofKind "a" (.other "x") ""], [⟨"e", "a", "b", none, none, none⟩]⟩
    (importDiagram shuffledText).result = .ok d ∧
      (Document.ofText shuffledText.toList).content.DistinctKeys ∧
      ∃ document, ExchangeDocument.ofText shuffledText = .ok document ∧ document.toDiagram = d := by
  intro d
  have himport : (importDiagram shuffledText).result = .ok d := by decide +kernel
  have hkeys : (Document.ofText shuffledText.toList).content.DistinctKeys := by decide +kernel
  exact ⟨himport, hkeys, ofText_of_importDiagram himport hkeys⟩

/-- A repeated key is overwritten in the value, but refused straight from the text. -/
example :
    let text := "\x7b\"nodes\":[],\"nodes\":[],\"edges\":[]\x7d"
    (importDiagram text).result = .ok ⟨[], []⟩ ∧ (ExchangeDocument.ofText text).isOk = false := by
  decide +kernel

end CloudDiagram
