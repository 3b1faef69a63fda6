import CloudDiagram.Proofs.Json.Denoted
import CloudDiagram.Proofs.Notice
import CloudDiagram.Proofs.Record.Order

/-!
# Reading a document part by part

* `collection_eq_ok_iff`: the list under a name;
* `importNodes_eq_ok_iff`, `importEdges_eq_ok_iff`: when all components and connections are read;
* `exists_split_of_importNodes`, `exists_split_of_importEdges`: where the reading ends otherwise;
* `importDocument_eq_ok_iff`: when the document is read.
-/

namespace CloudDiagram

open Json

theorem exists_getElem?_of_forall₂ {α β : Type} {R : α → β → Prop} {xs : List α} {ys : List β}
    (h : List.Forall₂ R xs ys) {i : Nat} {x : α} (hx : xs[i]? = some x) :
    ∃ y, ys[i]? = some y ∧ R x y := by
  induction h generalizing i with
  | nil => cases hx
  | cons hxy _ ih =>
    cases i with
    | zero =>
      cases hx
      exact ⟨_, rfl, hxy⟩
    | succ i => exact ih hx

/-! ## Lists under a name -/

theorem collection_eq_ok_iff {members : List (String × Value)} {field : String} {items : List Value}
    (hkeys : (members.map Prod.fst).Nodup) :
    collection members field = .ok items ↔ (field, .list items) ∈ members := by
  unfold collection
  constructor
  · intro h
    split at h
    · cases h
    · rename_i k values hfind
      cases h
      exact ((find?_key_eq_some_iff hkeys).1 hfind).2
    · cases h
  · intro h
    rw [(find?_key_eq_some_iff hkeys).2 ⟨rfl, h⟩]

/-! ## Components -/

section Nodes

variable {index : Nat} {seen : List String} {v : Value} {rest values : List Value}
  {n : ExchangeNode} {nodes : List ExchangeNode} {e : ImportError}

theorem importNodes_cons (hv : ExchangeNode.ofValue v = .ok n) (hn : n.id ∉ seen) :
    (importNodes index seen (v :: rest)).run.result =
      (importNodes (index + 1) (n.id :: seen) rest).run.result.map (n :: ·) := by
  simp only [importNodes, hv]
  rw [if_neg (by simpa using hn)]
  split <;> simp only [Attempt.result_bind, Attempt.result_say, Attempt.result_pure] <;>
    cases (importNodes (index + 1) (n.id :: seen) rest).run.result <;> rfl

theorem importNodes_unreadable {f : Failure} (hv : ExchangeNode.ofValue v = .error f) :
    (importNodes index seen (v :: rest)).run.result = .error (.invalidNode index f) := by
  simp only [importNodes, hv, Attempt.result_throw]

theorem importNodes_repeated (hv : ExchangeNode.ofValue v = .ok n) (hn : n.id ∈ seen) :
    (importNodes index seen (v :: rest)).run.result = .error (.duplicateNodeId n.id) := by
  simp only [importNodes, hv, List.contains_iff_mem.2 hn, if_true, Attempt.result_throw]

/-- The ids of a component and of others are distinct, and from those seen before, just when those of
the others are distinct from each other, from its own and from those. -/
theorem nodup_ids_cons_iff : (((n :: nodes).map (·.id)).Nodup ∧ ∀ m ∈ n :: nodes, m.id ∉ seen) ↔
    n.id ∉ seen ∧ (nodes.map (·.id)).Nodup ∧ ∀ m ∈ nodes, m.id ∉ n.id :: seen := by
  rw [List.forall_mem_cons]
  simp only [List.map_cons, List.nodup_cons, List.mem_map, List.mem_cons, not_or, not_exists, not_and]
  constructor
  · rintro ⟨⟨hid, hnodup⟩, hn, hseen⟩
    exact ⟨hn, hnodup, fun m hm => ⟨hid m hm, hseen m hm⟩⟩
  · rintro ⟨hn, hnodup, hothers⟩
    exact ⟨⟨fun m hm => (hothers m hm).1, hnodup⟩, hn, fun m hm => (hothers m hm).2⟩

/-- **The components are read** just when every one can be read and their ids are distinct from each
other and from those before them. -/
theorem importNodes_eq_ok_iff : (importNodes index seen values).run.result = .ok nodes ↔
    List.Forall₂ (fun v n => ExchangeNode.ofValue v = .ok n) values nodes ∧
      (nodes.map (·.id)).Nodup ∧ ∀ n ∈ nodes, n.id ∉ seen := by
  induction values generalizing index seen nodes with
  | nil =>
    simp only [importNodes, Attempt.result_pure, Except.ok.injEq, List.forall₂_nil_left_iff]
    constructor
    · rintro rfl
      simp
    · exact fun h => h.1.symm
  | cons v rest ih =>
    cases hv : ExchangeNode.ofValue v with
    | error f =>
      simp [importNodes_unreadable hv, List.forall₂_cons_left_iff, hv]
    | ok n =>
      simp only [List.forall₂_cons_left_iff, hv, Except.ok.injEq]
      by_cases hn : n.id ∈ seen
      · rw [importNodes_repeated hv hn]
        constructor
        · intro h
          cases h
        · rintro ⟨⟨_, others, rfl, -, rfl⟩, hids⟩
          exact absurd hn (nodup_ids_cons_iff.1 hids).1
      · rw [importNodes_cons hv hn, map_eq_ok]
        constructor
        · rintro ⟨others, hrest, rfl⟩
          obtain ⟨hread, hids⟩ := ih.1 hrest
          exact ⟨⟨n, others, rfl, hread, rfl⟩, nodup_ids_cons_iff.2 ⟨hn, hids⟩⟩
        · rintro ⟨⟨_, others, rfl, hread, rfl⟩, hids⟩
          exact ⟨others, ih.2 ⟨hread, (nodup_ids_cons_iff.1 hids).2⟩, rfl⟩

/-- **A component ends the reading** after others that are read: it cannot be read, or its id is one of
theirs or of those before them. -/
theorem exists_split_of_importNodes (h : (importNodes index seen values).run.result = .error e) :
    ∃ before v after nodes, values = before ++ v :: after ∧
      List.Forall₂ (fun v n => ExchangeNode.ofValue v = .ok n) before nodes ∧
      ((nodes.map (·.id)).Nodup ∧ ∀ n ∈ nodes, n.id ∉ seen) ∧
      ((∃ f, ExchangeNode.ofValue v = .error f ∧ e = .invalidNode (index + before.length) f) ∨
        ∃ n, ExchangeNode.ofValue v = .ok n ∧ (n.id ∈ seen ∨ n.id ∈ nodes.map (·.id)) ∧
          e = .duplicateNodeId n.id) := by
  induction values generalizing index seen with
  | nil => cases h
  | cons v rest ih =>
    cases hv : ExchangeNode.ofValue v with
    | error f =>
      rw [importNodes_unreadable hv] at h
      cases h
      exact ⟨[], v, rest, [], rfl, .nil, by simp, .inl ⟨f, hv, rfl⟩⟩
    | ok n =>
      by_cases hn : n.id ∈ seen
      · rw [importNodes_repeated hv hn] at h
        cases h
        exact ⟨[], v, rest, [], rfl, .nil, by simp, .inr ⟨n, hv, .inl hn, rfl⟩⟩
      · rw [importNodes_cons hv hn, map_eq_error] at h
        obtain ⟨before, u, after, nodes, rfl, hread, hids, hlast⟩ := ih h
        refine ⟨v :: before, u, after, n :: nodes, rfl, .cons hv hread,
          nodup_ids_cons_iff.2 ⟨hn, hids⟩, ?_⟩
        rcases hlast with ⟨f, hf, rfl⟩ | ⟨m, hm, hid, rfl⟩
        · refine .inl ⟨f, hf, ?_⟩
          rw [List.length_cons, Nat.add_assoc, Nat.add_comm 1]
        · refine .inr ⟨m, hm, ?_, rfl⟩
          rw [List.mem_cons, or_assoc, or_left_comm] at hid
          rw [List.map_cons, List.mem_cons]
          exact hid

end Nodes

/-! ## Connections -/

section Edges

variable {index : Nat} {ids : List String} {v : Value} {rest values : List Value}
  {c : Connection} {edges : List Connection} {e : ImportError}

theorem importEdges_cons (hv : Connection.ofValue v = .ok c) :
    (importEdges index ids (v :: rest)).run.result =
      (importEdges (index + 1) ids rest).run.result.map (c :: ·) := by
  simp only [importEdges, hv]
  split <;> simp only [Attempt.result_bind, Attempt.result_say, Attempt.result_pure] <;>
    cases (importEdges (index + 1) ids rest).run.result <;> rfl

theorem importEdges_unreadable {f : Failure} (hv : Connection.ofValue v = .error f) :
    (importEdges index ids (v :: rest)).run.result = .error (.invalidEdge index f) := by
  simp only [importEdges, hv, Attempt.result_throw]

theorem importEdges_eq_ok_iff : (importEdges index ids values).run.result = .ok edges ↔
    List.Forall₂ (fun v c => Connection.ofValue v = .ok c) values edges := by
  induction values generalizing index edges with
  | nil =>
    simp only [importEdges, Attempt.result_pure, Except.ok.injEq, List.forall₂_nil_left_iff]
    exact eq_comm
  | cons v rest ih =>
    cases hv : Connection.ofValue v with
    | error f =>
      simp [importEdges_unreadable hv, List.forall₂_cons_left_iff, hv]
    | ok c =>
      rw [importEdges_cons hv, map_eq_ok]
      simp only [List.forall₂_cons_left_iff, hv, Except.ok.injEq, ih]
      constructor
      · rintro ⟨others, hread, rfl⟩
        exact ⟨c, others, rfl, hread, rfl⟩
      · rintro ⟨_, others, rfl, hread, rfl⟩
        exact ⟨others, hread, rfl⟩

theorem exists_split_of_importEdges (h : (importEdges index ids values).run.result = .error e) :
    ∃ before v after edges f, values = before ++ v :: after ∧
      List.Forall₂ (fun v c => Connection.ofValue v = .ok c) before edges ∧
      Connection.ofValue v = .error f ∧ e = .invalidEdge (index + before.length) f := by
  induction values generalizing index with
  | nil => cases h
  | cons v rest ih =>
    cases hv : Connection.ofValue v with
    | error f =>
      rw [importEdges_unreadable hv] at h
      cases h
      exact ⟨[], v, rest, [], f, rfl, .nil, hv, rfl⟩
    | ok c =>
      rw [importEdges_cons hv, map_eq_error] at h
      obtain ⟨before, u, after, edges, f, rfl, hread, hf, rfl⟩ := ih h
      refine ⟨v :: before, u, after, c :: edges, f, rfl, .cons hv hread, hf, ?_⟩
      rw [List.length_cons, Nat.add_assoc, Nat.add_comm 1]

end Edges

/-! ## Documents -/

/-- **A document is read** just when its two lists are there and their elements can be read, the ids of
the components being distinct. -/
theorem importDocument_eq_ok_iff {text : String} {document : ExchangeDocument} :
    (importDocument text).run.result = .ok document ↔
    ∃ members rawNodes rawEdges, Value.ofText text.toList = .ok (.object members) ∧
      ("nodes", .list rawNodes) ∈ members ∧ ("edges", .list rawEdges) ∈ members ∧
      List.Forall₂ (fun v n => ExchangeNode.ofValue v = .ok n) rawNodes document.nodes ∧
      (document.nodes.map (·.id)).Nodup ∧
      List.Forall₂ (fun v c => Connection.ofValue v = .ok c) rawEdges document.edges := by
  constructor
  · intro h
    unfold importDocument at h
    split at h
    · cases h
    · rename_i members hmembers
      have hkeys := nodup_keys_of_ofText hmembers
      simp only [Attempt.result_bind, Attempt.result_lift] at h
      obtain ⟨rawNodes, hnodes, h⟩ := bind_eq_ok.1 h
      obtain ⟨rawEdges, hedges, h⟩ := bind_eq_ok.1 h
      obtain ⟨nodes, hreadNodes, h⟩ := bind_eq_ok.1 h
      obtain ⟨edges, hreadEdges, h⟩ := bind_eq_ok.1 h
      cases h
      obtain ⟨hreadNodes, hids, -⟩ := importNodes_eq_ok_iff.1 hreadNodes
      exact ⟨members, rawNodes, rawEdges, hmembers, (collection_eq_ok_iff hkeys).1 hnodes,
        (collection_eq_ok_iff hkeys).1 hedges, hreadNodes, hids, importEdges_eq_ok_iff.1 hreadEdges⟩
    · cases h
  · rintro ⟨members, rawNodes, rawEdges, hmembers, hnodes, hedges, hreadNodes, hids, hreadEdges⟩
    have hkeys := nodup_keys_of_ofText hmembers
    have hreadNodes : (importNodes 0 [] rawNodes).run.result = .ok document.nodes :=
      importNodes_eq_ok_iff.2 ⟨hreadNodes, hids, by simp⟩
    have hreadEdges : (importEdges 0 (document.nodes.map (·.id)) rawEdges).run.result =
        .ok document.edges := importEdges_eq_ok_iff.2 hreadEdges
    simp only [importDocument, hmembers, Attempt.result_bind, Attempt.result_lift]
    rw [(collection_eq_ok_iff hkeys).2 hnodes, (collection_eq_ok_iff hkeys).2 hedges]
    simp only [Except.bind, hreadNodes, hreadEdges, Attempt.result_pure]

end CloudDiagram
