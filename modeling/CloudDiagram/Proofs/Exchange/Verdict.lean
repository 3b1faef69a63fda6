import CloudDiagram.Proofs.Exchange.Defect

/-!
# What import makes of a document

* `firstNodeDefect_of_importNodes`, `firstEdgeDefect_of_importEdges`: the first defective element of a
  list is found;
* `firstDefect_of_importDocument`: so is the first defect of a document;
* **`importDiagram_result_iff`**: import accepts just the valid documents, and reports the first defect
  of any other.
-/

namespace CloudDiagram

open Json

/-! ## The first defect of a part -/

theorem collectionDefect_of_collection {members : List (String × Value)} {field : String}
    {e : ImportError} (hkeys : (members.map Prod.fst).Nodup)
    (h : collection members field = .error e) : CollectionDefect members field e := by
  unfold collection at h
  split at h
  · rename_i hfind
    cases h
    refine .missing fun hmem => ?_
    obtain ⟨m, hm, hkey⟩ := List.mem_map.1 hmem
    simpa [hkey] using List.find?_eq_none.1 hfind m hm
  · cases h
  · rename_i k v hlist hfind
    cases h
    refine .notAList ((find?_key_eq_some_iff hkeys).1 hfind).2 fun items hv => ?_
    exact hlist items hv

theorem firstNodeDefect_of_importNodes {values : List Value} {e : ImportError}
    (h : (importNodes 0 [] values).run.result = .error e) :
    ∃ i, NodeDefect values i e ∧ ∀ j < i, ∀ e', ¬ NodeDefect values j e' := by
  obtain ⟨before, v, after, nodes, rfl, hread, ⟨hnodup, -⟩, hlast⟩ := exists_split_of_importNodes h
  refine ⟨before.length, ?_, fun j hj e' => not_nodeDefect_of_lt hread hnodup hj _⟩
  have hv : (before ++ v :: after)[before.length]? = some v := by simp
  obtain ⟨f, hf, rfl⟩ | ⟨n, hn, hid, rfl⟩ := hlast
  · rw [Nat.zero_add]
    exact .unreadable hv hf
  · obtain hseen | hid := hid
    · cases hseen
    obtain ⟨m, hmem, hid⟩ := List.mem_map.1 hid
    obtain ⟨j, hm⟩ := List.mem_iff_getElem?.1 hmem
    obtain ⟨u, hu, hread⟩ := exists_getElem?_of_forall₂ hread.flip hm
    have hj := (List.getElem?_eq_some_iff.1 hu).1
    exact .repeated hv hn hj (by rw [List.getElem?_append_left hj, hu]) hread hid

theorem firstEdgeDefect_of_importEdges {ids : List String} {values : List Value} {e : ImportError}
    (h : (importEdges 0 ids values).run.result = .error e) :
    ∃ i, EdgeDefect values i e ∧ ∀ j < i, ∀ e', ¬ EdgeDefect values j e' := by
  obtain ⟨before, v, after, edges, f, rfl, hread, hf, rfl⟩ := exists_split_of_importEdges h
  refine ⟨before.length, ?_, fun j hj e' => not_edgeDefect_of_lt hread hj _⟩
  rw [Nat.zero_add]
  exact .unreadable (by simp) hf

/-! ## Nothing before a site -/

section Documents

variable {text : String} {members : List (String × Value)} {rawNodes rawEdges : List Value}
  {e : ImportError}

theorem soundBefore_text : SoundBefore text .text := by
  intro earlier e hbefore
  cases earlier <;> simp [Site.Before, Site.stage, Site.index] at hbefore

theorem soundBefore_root {v : Value} (hv : Value.ofText text.toList = .ok v) :
    SoundBefore text .root := by
  intro earlier e hbefore hdefect
  cases hdefect with
  | text hf => cases hf.symm.trans hv
  | root => simp [Site.Before] at hbefore
  | object _ h => cases h <;> simp [Site.Before, Site.stage] at hbefore

theorem soundBefore_nodes (hmembers : Value.ofText text.toList = .ok (.object members)) :
    SoundBefore text .nodes := by
  intro earlier e hbefore hdefect
  cases objectDefect_of_defect hmembers hdefect <;>
    simp [Site.Before, Site.stage] at hbefore

theorem soundBefore_edges (hmembers : Value.ofText text.toList = .ok (.object members))
    (hnodes : ("nodes", .list rawNodes) ∈ members) : SoundBefore text .edges := by
  intro earlier e hbefore hdefect
  cases objectDefect_of_defect hmembers hdefect with
  | nodes h => exact not_collectionDefect (nodup_keys_of_ofText hmembers) hnodes h
  | _ => simp [Site.Before, Site.stage] at hbefore

theorem soundBefore_node {i : Nat} (hmembers : Value.ofText text.toList = .ok (.object members))
    (hnodes : ("nodes", .list rawNodes) ∈ members) (hedges : ("edges", .list rawEdges) ∈ members)
    (hfirst : ∀ j < i, ∀ e, ¬ NodeDefect rawNodes j e) : SoundBefore text (.node i) := by
  have hkeys := nodup_keys_of_ofText hmembers
  intro earlier e hbefore hdefect
  cases objectDefect_of_defect hmembers hdefect with
  | nodes h => exact not_collectionDefect hkeys hnodes h
  | edges h => exact not_collectionDefect hkeys hedges h
  | node hvalues h =>
    cases eq_of_mem_of_nodup hkeys hnodes hvalues
    exact hfirst _ (by simpa [Site.Before, Site.stage, Site.index] using hbefore) e h
  | edge => simp [Site.Before, Site.stage] at hbefore

theorem soundBefore_edge {i : Nat} (hmembers : Value.ofText text.toList = .ok (.object members))
    (hnodes : ("nodes", .list rawNodes) ∈ members) (hedges : ("edges", .list rawEdges) ∈ members)
    (hread : ∀ j e, ¬ NodeDefect rawNodes j e) (hfirst : ∀ j < i, ∀ e, ¬ EdgeDefect rawEdges j e) :
    SoundBefore text (.edge i) := by
  have hkeys := nodup_keys_of_ofText hmembers
  intro earlier e hbefore hdefect
  cases objectDefect_of_defect hmembers hdefect with
  | nodes h => exact not_collectionDefect hkeys hnodes h
  | edges h => exact not_collectionDefect hkeys hedges h
  | node hvalues h =>
    cases eq_of_mem_of_nodup hkeys hnodes hvalues
    exact hread _ e h
  | edge hvalues h =>
    cases eq_of_mem_of_nodup hkeys hedges hvalues
    exact hfirst _ (by simpa [Site.Before, Site.stage, Site.index] using hbefore) e h

/-! ## Documents -/

theorem firstDefect_of_importDocument (h : (importDocument text).run.result = .error e) :
    FirstDefect text e := by
  unfold importDocument at h
  split at h
  · rename_i f hf
    cases h
    exact ⟨.text, .text hf, soundBefore_text⟩
  · rename_i members hmembers
    have hkeys := nodup_keys_of_ofText hmembers
    simp only [Attempt.result_bind, Attempt.result_lift] at h
    -- each stage fails here, or has succeeded for the next one
    obtain hlist | ⟨rawNodes, hnodes, h⟩ := bind_eq_error.1 h
    · exact ⟨.nodes, .object hmembers (.nodes (collectionDefect_of_collection hkeys hlist)),
        soundBefore_nodes hmembers⟩
    rw [collection_eq_ok_iff hkeys] at hnodes
    obtain hlist | ⟨rawEdges, hedges, h⟩ := bind_eq_error.1 h
    · exact ⟨.edges, .object hmembers (.edges (collectionDefect_of_collection hkeys hlist)),
        soundBefore_edges hmembers hnodes⟩
    rw [collection_eq_ok_iff hkeys] at hedges
    obtain hnode | ⟨nodes, hread, h⟩ := bind_eq_error.1 h
    · obtain ⟨i, hdefect, hfirst⟩ := firstNodeDefect_of_importNodes hnode
      exact ⟨.node i, .object hmembers (.node hnodes hdefect),
        soundBefore_node hmembers hnodes hedges hfirst⟩
    obtain ⟨hread, hids, -⟩ := importNodes_eq_ok_iff.1 hread
    obtain hedge | ⟨edges, -, h⟩ := bind_eq_error.1 h
    · obtain ⟨i, hdefect, hfirst⟩ := firstEdgeDefect_of_importEdges hedge
      exact ⟨.edge i, .object hmembers (.edge hedges hdefect),
        soundBefore_edge hmembers hnodes hedges (fun _ _ => not_nodeDefect hread hids) hfirst⟩
    cases h
  · rename_i v hobject hv
    cases h
    exact ⟨.root, .root hv fun members hmembers => hobject members hmembers, soundBefore_root hv⟩

theorem importDiagram_eq_ok_iff {d : Diagram} :
    (importDiagram text).result = .ok d ↔ ValidDocument text d := by
  rw [importDiagram, Attempt.result_map, map_eq_ok]
  constructor
  · rintro ⟨document, hdocument, rfl⟩
    obtain ⟨members, rawNodes, rawEdges, hmembers, hnodes, hedges, hread, hids, hreadEdges⟩ :=
      importDocument_eq_ok_iff.1 hdocument
    exact ⟨members, rawNodes, rawEdges, document.nodes, hmembers, hnodes, hedges, hread, hids,
      hreadEdges, rfl⟩
  · rintro ⟨members, rawNodes, rawEdges, nodes, hmembers, hnodes, hedges, hread, hids, hreadEdges, hd⟩
    refine ⟨⟨nodes, d.edges⟩, importDocument_eq_ok_iff.2 ⟨members, rawNodes, rawEdges, hmembers,
      hnodes, hedges, hread, hids, hreadEdges⟩, ?_⟩
    rw [ExchangeDocument.toDiagram, ← hd]

/-- **Import accepts just the valid documents, and reports the first defect of any other.** -/
theorem importDiagram_result_iff (text : String) :
    (∀ d, (importDiagram text).result = .ok d ↔ ValidDocument text d) ∧
      ∀ e, (importDiagram text).result = .error e ↔ FirstDefect text e := by
  refine ⟨fun d => importDiagram_eq_ok_iff, fun e => ?_⟩
  constructor
  · intro h
    rw [importDiagram, Attempt.result_map, map_eq_error] at h
    exact firstDefect_of_importDocument h
  · intro hfirst
    cases hresult : (importDiagram text).result with
    | ok d =>
      obtain ⟨site, hdefect, -⟩ := hfirst
      exact absurd hdefect (not_defect_of_validDocument (importDiagram_eq_ok_iff.1 hresult))
    | error e' =>
      rw [importDiagram, Attempt.result_map, map_eq_error] at hresult
      rw [hfirst.unique (firstDefect_of_importDocument hresult)]

end Documents

/-- A repeated id is reported before a later component that cannot be read. -/
example :
    let node := "\x7b\"id\":\"a\",\"data\":[\"x\"]\x7d"
    (importDiagram ("\x7b\"nodes\":[" ++ node ++ "," ++ node ++ ",7],\"edges\":[]\x7d")).result =
      .error (.duplicateNodeId "a") := by
  decide +kernel

end CloudDiagram
