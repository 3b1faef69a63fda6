import CloudDiagram.Proofs.Diagram.Reread
import CloudDiagram.Proofs.Exchange.Decode
import CloudDiagram.Proofs.Exchange.Imported

/-!
# Import undoes export

* `importNodes_toJson`, `importEdges_toJson`: the parts of a document come back;
* `ExchangeDocument.readable_toJson`: the text of a document can be read;
* **`importDocument_exportText_reread`**, `importDocument_exportText`: so can the text of a diagram with
  distinct ids and finite positions, and it gives the document of the diagram, with the numbers and
  kinds that its own are read as.
-/

namespace CloudDiagram

open Json

/-! ## The parts of a document -/

theorem importNodes_toJson {nodes : List ExchangeNode} (index : Nat) (seen : List String)
    (hpositions : ∀ n ∈ nodes, n.position.isFinite = true) (hkinds : ∀ n ∈ nodes, n.kind.Canonical)
    (hids : (nodes.map (·.id)).Nodup) (hseen : ∀ n ∈ nodes, n.id ∉ seen) :
    (importNodes index seen (nodes.map fun n => n.toJson.inKeyOrder)).run.result = .ok nodes := by
  refine importNodes_eq_ok_iff.2 ⟨?_, hids, hseen⟩
  rw [List.forall₂_map_left_iff, List.forall₂_same]
  exact fun n hn => ExchangeNode.ofValue_toJson (hpositions n hn) (hkinds n hn)

theorem importEdges_toJson (index : Nat) (ids : List String) (edges : List Connection) :
    (importEdges index ids (edges.map fun c => c.toJson.inKeyOrder)).run.result = .ok edges := by
  rw [importEdges_eq_ok_iff, List.forall₂_map_left_iff, List.forall₂_same]
  exact fun c _ => c.ofValue_toJson

/-! ## The text of a document -/

theorem readable_ofBinary64 (x : Binary64) (depth : Nat) :
    (Value.ofBinary64 x).Readable depth := by
  unfold Value.ofBinary64
  split <;> trivial

theorem readable_ofOption (s : Option String) (depth : Nat) : (Value.ofOption s).Readable depth := by
  cases s <;> trivial

theorem readable_optionalMember (key : String) (s : Option String) (depth : Nat) :
    ∀ m ∈ optionalMember key s, m.2.Readable depth := by
  cases s with
  | none => simp [optionalMember]
  | some s =>
    intro m hm
    rw [optionalMember, List.mem_singleton] at hm
    subst hm
    trivial

theorem readable_properties (p : Properties) {depth : Nat} (hdepth : depth < depthLimit) :
    (Properties.toJson p).Readable depth := by
  refine ⟨hdepth, membersReadable_iff.2 fun m hm => ?_⟩
  obtain ⟨e, -, rfl⟩ := List.mem_map.1 hm
  cases e.2 <;> trivial

theorem Connection.readable_toJson (c : Connection) {depth : Nat} (hdepth : depth < depthLimit) :
    c.toJson.Readable depth := by
  refine ⟨hdepth, membersReadable_iff.2 fun m hm => ?_⟩
  simp only [List.mem_append, List.mem_cons, List.not_mem_nil, or_false] at hm
  obtain (((rfl | rfl | rfl) | hm) | hm) | hm := hm
  · trivial
  · trivial
  · trivial
  all_goals exact readable_optionalMember _ _ _ m hm

theorem ExchangeNode.readable_toJson (n : ExchangeNode) {depth : Nat}
    (hdepth : depth + 2 < depthLimit) : n.toJson.Readable depth := by
  have hposition : n.position.toJson.Readable (depth + 1) :=
    ⟨by omega, readable_ofBinary64 _ _, readable_ofBinary64 _ _, trivial⟩
  have hdata : n.dataJson.Readable (depth + 1) := by
    refine ⟨by omega, membersReadable_iff.2 fun m hm => ?_⟩
    simp only [List.mem_append, List.mem_singleton] at hm
    obtain (((rfl | hm) | rfl) | hm) | rfl := hm
    · trivial
    · exact readable_optionalMember _ _ _ m hm
    · exact readable_ofOption n.name _
    · exact readable_optionalMember _ _ _ m hm
    · exact readable_properties n.properties hdepth
  exact ⟨by omega, trivial, hposition, trivial, hdata, trivial⟩

theorem ExchangeDocument.readable_toJson (d : ExchangeDocument) : d.toJson.Readable 0 := by
  have hnodes : ∀ v ∈ d.nodes.map ExchangeNode.toJson, v.Readable 2 :=
    List.forall_mem_map.2 fun n _ => n.readable_toJson (by decide)
  have hedges : ∀ v ∈ d.edges.map Connection.toJson, v.Readable 2 :=
    List.forall_mem_map.2 fun c _ => c.readable_toJson (by decide)
  exact ⟨by decide, ⟨by decide, itemsReadable_iff.2 hnodes⟩, ⟨by decide, itemsReadable_iff.2 hedges⟩,
    trivial⟩

/-! ## The numbers of a document -/

theorem reread_ofBinary64 (x : Binary64) :
    (Value.ofBinary64 x).reread = .ofBinary64 x.reread := by
  by_cases h : x.isFinite = true
  · rw [Value.ofBinary64, dif_pos h, Value.reread, Number.reread_float h, Value.ofBinary64,
      dif_pos (Binary64.isFinite_reread h)]
  · have hx : x.reread = x := dif_neg h
    have hnull : Value.null.reread = .null := rfl
    rw [hx, Value.ofBinary64, dif_neg h, hnull]

theorem reread_ofOption (s : Option String) : (Value.ofOption s).reread = .ofOption s := by
  cases s <;> rfl

theorem membersReread_optionalMember (key : String) (s : Option String) :
    membersReread (optionalMember key s) = optionalMember key s := by
  cases s <;> rfl

theorem membersReread_append (members others : List (String × Value)) :
    membersReread (members ++ others) = membersReread members ++ membersReread others := by
  simp only [membersReread_eq_map, List.map_append]

theorem Properties.reread_toJson (p : Properties) :
    (Properties.toJson p).reread = Properties.toJson p.reread := by
  have hvalue (v : PropertyValue) : v.toJson.reread = v.reread.toJson := by cases v <;> rfl
  simp only [Properties.toJson, Properties.reread, Value.reread, membersReread_eq_map, List.map_map,
    Function.comp_def, hvalue]

theorem Connection.reread_toJson (c : Connection) : c.toJson.reread = c.toJson := by
  simp only [Connection.toJson, Value.reread, membersReread_append, membersReread_optionalMember,
    membersReread]

theorem ExchangeNode.reread_toJson (n : Node) :
    (ExchangeNode.ofNode n).toJson.reread = (ExchangeNode.ofNode n.reread).toJson := by
  simp only [ExchangeNode.toJson, ExchangeNode.ofNode, Node.reread, Position.toJson, Position.reread,
    Kind.text_ofText, Value.reread, membersReread_append, membersReread_optionalMember, membersReread,
    reread_ofBinary64, reread_ofOption, Properties.reread_toJson]

/-- **The text of a diagram** denotes the document of the diagram, with the numbers and kinds that its
own are read as. -/
theorem ofText_exportText (d : Diagram) :
    Value.ofText d.exportText.toList = .ok (.object [
      ("edges", .list (d.edges.map fun c => c.toJson.inKeyOrder)),
      ("nodes",
        .list ((d.reread.nodes.map ExchangeNode.ofNode).map fun n => n.toJson.inKeyOrder))]) := by
  have horder : "edges" < "nodes" := by decide
  have hentries (nodes edges : Value) :
      (KeyMap.ofList [("nodes", nodes), ("edges", edges)]).entries =
        [("edges", edges), ("nodes", nodes)] := by
    simp only [KeyMap.ofList, KeyMap.insert, KeyMap.empty, List.foldl_cons, List.foldl_nil,
      insertEntry, if_pos horder]
  rw [Diagram.exportText, ofText_pretty (ExchangeDocument.readable_toJson _)]
  simp only [ExchangeDocument.toJson, ExchangeDocument.ofDiagram, Diagram.reread, Value.reread,
    membersReread, itemsReread_eq_map, Value.inKeyOrder, membersInKeyOrder, itemsInKeyOrder_eq_map,
    hentries, List.map_map, Function.comp_def, ExchangeNode.reread_toJson, Connection.reread_toJson]

/-- **The text of a diagram gives its document**, with the numbers and kinds that its own are read as,
if its ids are distinct and its positions finite. -/
theorem importDocument_exportText_reread {d : Diagram} {holds : Kind → Prop} (h : d.Sound holds) :
    (importDocument d.exportText).run.result = .ok (.ofDiagram d.reread) := by
  have hstorable := Diagram.storable_reread h
  have hids : ((d.reread.nodes.map ExchangeNode.ofNode).map (·.id)).Nodup := by
    rw [List.map_map]
    exact hstorable.ids_nodup
  have hnodes := importNodes_toJson 0 [] (List.forall_mem_map.2 hstorable.positions_finite)
    (List.forall_mem_map.2 hstorable.kinds_canonical) hids fun n _ => List.not_mem_nil
  have hedges := importEdges_toJson 0 ((d.reread.nodes.map ExchangeNode.ofNode).map (·.id)) d.edges
  have hrawNodes (edges nodes : List Value) :
      collection [("edges", .list edges), ("nodes", .list nodes)] "nodes" = .ok nodes := rfl
  have hrawEdges (edges nodes : List Value) :
      collection [("edges", .list edges), ("nodes", .list nodes)] "edges" = .ok edges := rfl
  rw [importDocument, ofText_exportText d]
  simp only [Attempt.result_bind, Attempt.result_lift, hrawNodes, hrawEdges, Except.bind, hnodes,
    hedges]
  rfl

theorem importDocument_exportText {d : Diagram} (h : d.Storable) (hfloats : d.FloatsReadBack) :
    (importDocument d.exportText).run.result = .ok (.ofDiagram d) := by
  rw [importDocument_exportText_reread (Diagram.storable_iff_sound.1 h),
    Diagram.reread_eq h hfloats]

theorem ExchangeDocument.toDiagram_ofDiagram (d : Diagram) :
    (ExchangeDocument.ofDiagram d).toDiagram = d := by
  have hnodes : (d.nodes.map ExchangeNode.ofNode).map ExchangeNode.toNode = d.nodes := by
    rw [List.map_map]
    exact List.map_id _
  rw [ofDiagram, toDiagram, hnodes]

/-- **Import undoes export** for every diagram that survives a save: its components and connections
come back in the same order with every field as it was. -/
theorem importDiagram_exportText {d : Diagram} (h : d.Storable) (hfloats : d.FloatsReadBack) :
    (importDiagram d.exportText).result = .ok d := by
  rw [importDiagram, Attempt.result_map, importDocument_exportText h hfloats]
  simp only [Except.map, ExchangeDocument.toDiagram_ofDiagram]

/-- Two components and two connections that the editor would not make itself. -/
def Diagram.sketch : Diagram where
  nodes := [
    { id := "node-+7"
      kind := .other "Quantum \"core\""
      name := "line\nbreak \u2028 and \\ \x00"
      label := none
      position := ⟨.ofNat 300, .ofRank true 4591870180066957722 (by decide)⟩
      properties := .ofList [
        ("storage", .number (.float (.ofRank false 4591870180066957722 (by decide)) (by decide))),
        ("ключ", .text "\t"),
        ("count", .number (.integer (-3) (by decide)))] },
    { Node.ofKind "" .database "" with label := some "RDS" }]
  edges := [
    ⟨"e", "node-+7", "node-+7", some "out", none, some "step"⟩,
    ⟨"e", "nowhere", "", none, some "", none⟩]

theorem importDiagram_exportText_sketch :
    Diagram.sketch.Storable ∧ Diagram.sketch.FloatsReadBack ∧
      (importDiagram Diagram.sketch.exportText).result = .ok Diagram.sketch :=
  have hstorable : Diagram.sketch.Storable := by decide +kernel
  have hfloats : Diagram.sketch.FloatsReadBack := by decide +kernel
  ⟨hstorable, hfloats, importDiagram_exportText hstorable hfloats⟩

end CloudDiagram
