import CloudDiagram.Proofs.Exchange.Elements
import CloudDiagram.Proofs.Json.Denoted

/-!
# The first defect of a document

A document is looked at in stages: the text, its root, the two lists, the components one after the
other, the connections one after the other.

* `Site`, `Site.Before`: where a document can be defective, in this order;
* `Defect`: a defect at a site, whatever is defective elsewhere, and `FirstDefect`;
* `ValidDocument`: a text without a defect, and its diagram;
* `FirstDefect.unique`: there is one first defect;
* `not_defect_of_validDocument`: a valid document has none.
-/

namespace CloudDiagram

open Json

/-! ## Sites -/

/-- **Where a document can be defective.** -/
inductive Site
  | text
  | root
  | nodes
  | edges
  | node (index : Nat)
  | edge (index : Nat)

/-- The stage at which a site is looked at. -/
def Site.stage : Site → Nat
  | text => 0
  | root => 1
  | nodes => 2
  | edges => 3
  | node _ => 4
  | edge _ => 5

/-- The place of a site among those of its stage. -/
def Site.index : Site → Nat
  | node i => i
  | edge i => i
  | _ => 0

/-- **One site is looked at before another.** -/
def Site.Before (a b : Site) : Prop := a.stage < b.stage ∨ a.stage = b.stage ∧ a.index < b.index

theorem Site.before_or_eq_or_before (a b : Site) : a.Before b ∨ a = b ∨ b.Before a := by
  cases a <;> cases b <;> simp [Before, stage, index] <;> omega

/-! ## Defects -/

/-- There is no list under a name. -/
inductive CollectionDefect (members : List (String × Value)) (field : String) : ImportError → Prop
  | missing (h : field ∉ members.map Prod.fst) :
      CollectionDefect members field (.missingCollection field)
  | notAList {v : Value} (h : (field, v) ∈ members) (hv : ∀ items, v ≠ .list items) :
      CollectionDefect members field (.notAList field (typeName v))

/-- **The component at an index is defective**: it cannot be read, or an earlier one has its id. -/
inductive NodeDefect (values : List Value) (index : Nat) : ImportError → Prop
  | unreadable {v : Value} {f : Failure} (hv : values[index]? = some v)
      (hf : ExchangeNode.ofValue v = .error f) : NodeDefect values index (.invalidNode index f)
  | repeated {u v : Value} {m n : ExchangeNode} {earlier : Nat} (hv : values[index]? = some v)
      (hn : ExchangeNode.ofValue v = .ok n) (hearlier : earlier < index)
      (hu : values[earlier]? = some u) (hm : ExchangeNode.ofValue u = .ok m) (hid : m.id = n.id) :
      NodeDefect values index (.duplicateNodeId n.id)

/-- The connection at an index cannot be read. -/
inductive EdgeDefect (values : List Value) (index : Nat) : ImportError → Prop
  | unreadable {v : Value} {f : Failure} (hv : values[index]? = some v)
      (hf : Connection.ofValue v = .error f) : EdgeDefect values index (.invalidEdge index f)

/-- **A defect of an object**: of one of its lists, or of an element of one. -/
inductive ObjectDefect (members : List (String × Value)) : Site → ImportError → Prop
  | nodes {e : ImportError} (h : CollectionDefect members "nodes" e) : ObjectDefect members .nodes e
  | edges {e : ImportError} (h : CollectionDefect members "edges" e) : ObjectDefect members .edges e
  | node {values : List Value} {i : Nat} {e : ImportError}
      (hvalues : ("nodes", .list values) ∈ members) (h : NodeDefect values i e) :
      ObjectDefect members (.node i) e
  | edge {values : List Value} {i : Nat} {e : ImportError}
      (hvalues : ("edges", .list values) ∈ members) (h : EdgeDefect values i e) :
      ObjectDefect members (.edge i) e

/-- **A defect of a text at a site**, whatever is defective elsewhere. -/
inductive Defect (text : String) : Site → ImportError → Prop
  | text {f : Fault} (hf : Value.ofText text.toList = .error f) :
      Defect text .text (.invalidJson f.cause (f.place text.toList))
  | root {v : Value} (hv : Value.ofText text.toList = .ok v)
      (hroot : ∀ members, v ≠ .object members) : Defect text .root .notAnObject
  | object {members : List (String × Value)} {site : Site} {e : ImportError}
      (hmembers : Value.ofText text.toList = .ok (.object members))
      (h : ObjectDefect members site e) : Defect text site e

/-- Nothing is defective at the sites before one. -/
def SoundBefore (text : String) (site : Site) : Prop :=
  ∀ earlier e, earlier.Before site → ¬ Defect text earlier e

/-- **The first defect of a text.** -/
def FirstDefect (text : String) (e : ImportError) : Prop :=
  ∃ site, Defect text site e ∧ SoundBefore text site

/-- **A valid document and its diagram**: an object with two lists, one of components with distinct ids
and one of connections, which the diagram has in their order. -/
def ValidDocument (text : String) (d : Diagram) : Prop :=
  ∃ (members : List (String × Value)) (rawNodes rawEdges : List Value) (nodes : List ExchangeNode),
    Value.ofText text.toList = .ok (.object members) ∧
      ("nodes", .list rawNodes) ∈ members ∧ ("edges", .list rawEdges) ∈ members ∧
      List.Forall₂ (fun v n => ExchangeNode.ofValue v = .ok n) rawNodes nodes ∧
      (nodes.map (·.id)).Nodup ∧
      List.Forall₂ (fun v c => Connection.ofValue v = .ok c) rawEdges d.edges ∧
      d.nodes = nodes.map ExchangeNode.toNode

/-! ## Lists under a name -/

section Collection

variable {members : List (String × Value)} {field : String}

theorem not_collectionDefect {items : List Value} {e : ImportError}
    (hkeys : (members.map Prod.fst).Nodup) (h : (field, .list items) ∈ members) :
    ¬ CollectionDefect members field e := by
  rintro (hmissing | ⟨hv, hlist⟩)
  · exact hmissing (List.mem_map.2 ⟨_, h, rfl⟩)
  · exact hlist items (eq_of_mem_of_nodup hkeys hv h)

theorem CollectionDefect.unique {e e' : ImportError} (hkeys : (members.map Prod.fst).Nodup)
    (h : CollectionDefect members field e) (h' : CollectionDefect members field e') : e = e' := by
  cases h with
  | missing hmissing =>
    cases h' with
    | missing => rfl
    | notAList hv => exact absurd (List.mem_map.2 ⟨_, hv, rfl⟩) hmissing
  | notAList hu =>
    cases h' with
    | missing hmissing => exact absurd (List.mem_map.2 ⟨_, hu, rfl⟩) hmissing
    | notAList hv => rw [eq_of_mem_of_nodup hkeys hu hv]

end Collection

/-! ## Components -/

section Nodes

variable {values : List Value} {nodes : List ExchangeNode} {i : Nat} {e e' : ImportError}

theorem NodeDefect.lt_length (h : NodeDefect values i e) : i < values.length := by
  obtain hv | hv := h <;> exact (List.getElem?_eq_some_iff.1 hv).1

/-- Components that are read with distinct ids have no defect, whatever follows them. -/
theorem not_nodeDefect_of_lt {before : List Value}
    (hread : List.Forall₂ (fun v n => ExchangeNode.ofValue v = .ok n) before nodes)
    (hnodup : (nodes.map (·.id)).Nodup) (hi : i < before.length) (after : List Value) :
    ¬ NodeDefect (before ++ after) i e := by
  rintro (⟨hv, hf⟩ | ⟨hv, hn, hearlier, hu, hm, hid⟩)
  · rw [List.getElem?_append_left hi] at hv
    obtain ⟨n, -, hn⟩ := exists_getElem?_of_forall₂ hread hv
    cases hf.symm.trans hn
  · rw [List.getElem?_append_left hi] at hv
    rw [List.getElem?_append_left (by omega)] at hu
    obtain ⟨n', hn', hread'⟩ := exists_getElem?_of_forall₂ hread hv
    obtain ⟨m', hm', hread''⟩ := exists_getElem?_of_forall₂ hread hu
    cases hn.symm.trans hread'
    cases hm.symm.trans hread''
    -- the two components have one id at different places
    have hlength := (List.getElem?_eq_some_iff.1 hn').1
    refine (List.nodup_iff_getElem?_ne_getElem?.1 hnodup _ i hearlier (by simpa using hlength)) ?_
    rw [List.getElem?_map, List.getElem?_map, hn', hm', Option.map_some, Option.map_some, hid]

theorem not_nodeDefect (hread : List.Forall₂ (fun v n => ExchangeNode.ofValue v = .ok n) values nodes)
    (hnodup : (nodes.map (·.id)).Nodup) : ¬ NodeDefect values i e := by
  intro h
  have hi := h.lt_length
  rw [← List.append_nil values] at h
  exact not_nodeDefect_of_lt hread hnodup hi [] h

theorem NodeDefect.unique (h : NodeDefect values i e) (h' : NodeDefect values i e') : e = e' := by
  cases h with
  | unreadable hv hf =>
    cases h' with
    | unreadable hv' hf' =>
      cases hv.symm.trans hv'
      cases hf.symm.trans hf'
      rfl
    | repeated hv' hn =>
      cases hv.symm.trans hv'
      cases hf.symm.trans hn
  | repeated hv hn =>
    cases h' with
    | unreadable hv' hf =>
      cases hv.symm.trans hv'
      cases hf.symm.trans hn
    | repeated hv' hn' =>
      cases hv.symm.trans hv'
      cases hn.symm.trans hn'
      rfl

end Nodes

/-! ## Connections -/

section Edges

variable {values : List Value} {edges : List Connection} {i : Nat} {e e' : ImportError}

theorem EdgeDefect.lt_length (h : EdgeDefect values i e) : i < values.length := by
  obtain ⟨hv⟩ := h
  exact (List.getElem?_eq_some_iff.1 hv).1

/-- Connections that are read have no defect, whatever follows them. -/
theorem not_edgeDefect_of_lt {before : List Value}
    (hread : List.Forall₂ (fun v c => Connection.ofValue v = .ok c) before edges)
    (hi : i < before.length) (after : List Value) : ¬ EdgeDefect (before ++ after) i e := by
  rintro ⟨hv, hf⟩
  rw [List.getElem?_append_left hi] at hv
  obtain ⟨c, -, hc⟩ := exists_getElem?_of_forall₂ hread hv
  cases hf.symm.trans hc

theorem not_edgeDefect
    (hread : List.Forall₂ (fun v c => Connection.ofValue v = .ok c) values edges) :
    ¬ EdgeDefect values i e := by
  intro h
  have hi := h.lt_length
  rw [← List.append_nil values] at h
  exact not_edgeDefect_of_lt hread hi [] h

theorem EdgeDefect.unique (h : EdgeDefect values i e) (h' : EdgeDefect values i e') : e = e' := by
  obtain ⟨hv, hf⟩ := h
  obtain ⟨hv', hf'⟩ := h'
  cases hv.symm.trans hv'
  cases hf.symm.trans hf'
  rfl

end Edges

/-! ## Documents -/

section Documents

variable {text : String} {members : List (String × Value)} {site : Site} {e e' : ImportError}

theorem objectDefect_of_defect (hmembers : Value.ofText text.toList = .ok (.object members))
    (h : Defect text site e) : ObjectDefect members site e := by
  cases h with
  | text hf => cases hf.symm.trans hmembers
  | root hv hroot =>
    cases hv.symm.trans hmembers
    exact absurd rfl (hroot members)
  | object hmembers' h =>
    cases hmembers'.symm.trans hmembers
    exact h

theorem ObjectDefect.unique (hkeys : (members.map Prod.fst).Nodup) (h : ObjectDefect members site e)
    (h' : ObjectDefect members site e') : e = e' := by
  cases h with
  | nodes h =>
    cases h' with
    | nodes h' => exact h.unique hkeys h'
  | edges h =>
    cases h' with
    | edges h' => exact h.unique hkeys h'
  | node hvalues h =>
    cases h' with
    | node hvalues' h' =>
      cases eq_of_mem_of_nodup hkeys hvalues hvalues'
      exact h.unique h'
  | edge hvalues h =>
    cases h' with
    | edge hvalues' h' =>
      cases eq_of_mem_of_nodup hkeys hvalues hvalues'
      exact h.unique h'

/-- **There is one defect at a site.** -/
theorem Defect.unique (h : Defect text site e) (h' : Defect text site e') : e = e' := by
  cases h with
  | text hf =>
    cases h' with
    | text hf' =>
      cases hf.symm.trans hf'
      rfl
    | object _ h' => cases h'
  | root =>
    cases h' with
    | root => rfl
    | object _ h' => cases h'
  | object hmembers h =>
    exact h.unique (nodup_keys_of_ofText hmembers) (objectDefect_of_defect hmembers h')

theorem FirstDefect.unique (h : FirstDefect text e) (h' : FirstDefect text e') : e = e' := by
  obtain ⟨site, hdefect, hsound⟩ := h
  obtain ⟨site', hdefect', hsound'⟩ := h'
  rcases site.before_or_eq_or_before site' with hbefore | rfl | hbefore
  · exact absurd hdefect (hsound' _ _ hbefore)
  · exact hdefect.unique hdefect'
  · exact absurd hdefect' (hsound _ _ hbefore)

theorem not_defect_of_validDocument {d : Diagram} (h : ValidDocument text d) :
    ¬ Defect text site e := by
  obtain ⟨members, rawNodes, rawEdges, nodes, hmembers, hnodes, hedges, hread, hids, hreadEdges, -⟩ :=
    h
  have hkeys := nodup_keys_of_ofText hmembers
  intro hdefect
  cases objectDefect_of_defect hmembers hdefect with
  | nodes h => exact not_collectionDefect hkeys hnodes h
  | edges h => exact not_collectionDefect hkeys hedges h
  | node hvalues h =>
    cases eq_of_mem_of_nodup hkeys hnodes hvalues
    exact not_nodeDefect hread hids h
  | edge hvalues h =>
    cases eq_of_mem_of_nodup hkeys hedges hvalues
    exact not_edgeDefect hreadEdges h

end Documents

end CloudDiagram
