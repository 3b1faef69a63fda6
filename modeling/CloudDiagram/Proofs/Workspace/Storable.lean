import CloudDiagram.Proofs.Diagram.NextId
import CloudDiagram.Proofs.Exchange.Imported
import CloudDiagram.Proofs.Workspace.Plan

/-!
# Requests keep diagrams that survive a save

* `Sound.append`, `Sound.modify`, `Sound.sublist`: how the components of a diagram change;
* `Plan.Saves`: something holds of the diagram that a plan saves;
* `Request.KindHolds`, `Request.KindNamed`: what holds of the kind of a request;
* **`savesSound_plan`**: what a request saves has distinct ids and finite positions, and kinds of which
  holds what holds of the kind of the request;
* **`savesStorable_plan`**: so it survives the save, if this kind comes from a name.
-/

namespace CloudDiagram

/-! ## Changes of the components -/

variable {d : Diagram} {holds : Kind → Prop}

namespace Diagram.Sound

theorem withEdges (h : d.Sound holds) (edges : List Connection) :
    Diagram.Sound holds { d with edges } :=
  ⟨h.ids_nodup, h.positions_finite, h.kinds_hold⟩

theorem append (h : d.Sound holds) {n : Node} (hid : n.id ∉ d.nodes.map (·.id))
    (hposition : n.position.isFinite = true) (hkind : holds n.kind) :
    Diagram.Sound holds { d with nodes := d.nodes ++ [n] } := by
  refine ⟨?_, fun m hm => ?_, fun m hm => ?_⟩
  · rw [List.map_append, List.map_singleton, List.nodup_append]
    refine ⟨h.ids_nodup, by simp, fun a ha b hb heq => hid ?_⟩
    rw [← List.mem_singleton.1 hb, ← heq]
    exact ha
  · rcases List.mem_append.1 hm with hm | hm
    · exact h.positions_finite m hm
    · rwa [List.mem_singleton.1 hm]
  · rcases List.mem_append.1 hm with hm | hm
    · exact h.kinds_hold m hm
    · rwa [List.mem_singleton.1 hm]

theorem sublist (h : d.Sound holds) {nodes : List Node} (hnodes : nodes.Sublist d.nodes) :
    Diagram.Sound holds { d with nodes } :=
  ⟨h.ids_nodup.sublist (hnodes.map _), fun n hn => h.positions_finite n (hnodes.subset hn),
    fun n hn => h.kinds_hold n (hnodes.subset hn)⟩

end Diagram.Sound

theorem find?_append_of_fresh {nodes : List Node} {n : Node} (h : n.id ∉ nodes.map (·.id)) :
    (nodes ++ [n]).find? (·.id == n.id) = some n := by
  have hnone : nodes.find? (·.id == n.id) = none := List.find?_eq_none.2 fun m hm heq =>
    h (List.mem_map.2 ⟨m, hm, eq_of_beq heq⟩)
  simp only [List.find?_append, hnone, Option.none_or, List.find?_cons, beq_self_eq_true]

theorem map_id_changeFirst {change : Node → Node} (hchange : ∀ n, (change n).id = n.id)
    (id : String) (nodes : List Node) :
    (Diagram.changeFirst id change nodes).map (·.id) = nodes.map (·.id) := by
  induction nodes with
  | nil => rfl
  | cons n rest ih =>
    unfold Diagram.changeFirst
    split
    · rw [List.map_cons, List.map_cons, hchange]
    · rw [List.map_cons, List.map_cons, ih]

theorem mem_changeFirst {id : String} {change : Node → Node} {nodes : List Node} {n : Node}
    (h : n ∈ Diagram.changeFirst id change nodes) : ∃ m ∈ nodes, n = m ∨ n = change m := by
  induction nodes with
  | nil => cases h
  | cons first rest ih =>
    unfold Diagram.changeFirst at h
    split at h
    · rcases List.mem_cons.1 h with rfl | h
      · exact ⟨first, List.mem_cons_self, .inr rfl⟩
      · exact ⟨n, List.mem_cons_of_mem _ h, .inl rfl⟩
    · rcases List.mem_cons.1 h with rfl | h
      · exact ⟨n, List.mem_cons_self, .inl rfl⟩
      · obtain ⟨m, hm, hor⟩ := ih h
        exact ⟨m, List.mem_cons_of_mem _ hm, hor⟩

theorem Diagram.Sound.modify (h : d.Sound holds) (id : String) {change : Node → Node}
    (hid : ∀ n, (change n).id = n.id) (hkind : ∀ n, (change n).kind = n.kind)
    (hposition : ∀ n, n.position.isFinite = true → (change n).position.isFinite = true) :
    Diagram.Sound holds { d with nodes := Diagram.changeFirst id change d.nodes } := by
  refine ⟨?_, fun n hn => ?_, fun n hn => ?_⟩
  · rw [map_id_changeFirst hid]
    exact h.ids_nodup
  · obtain ⟨m, hm, rfl | rfl⟩ := mem_changeFirst hn
    · exact h.positions_finite n hm
    · exact hposition m (h.positions_finite m hm)
  · obtain ⟨m, hm, rfl | rfl⟩ := mem_changeFirst hn
    · exact h.kinds_hold n hm
    · rw [hkind]
      exact h.kinds_hold m hm

/-! ## Plans -/

/-- **Something holds of the kind of the request**, if it brings one. -/
def Request.KindHolds (holds : Kind → Prop) : Request → Prop
  | addComponent kind _ => holds kind
  | _ => True

/-- **The kind of the request comes from a name.** -/
def Request.KindNamed : Request → Prop
  | addComponent kind _ => ∃ raw, kind = .ofText raw
  | _ => True

theorem Request.KindNamed.canonical {r : Request} (h : r.KindNamed) :
    r.KindHolds Kind.Canonical := by
  cases r with
  | addComponent kind position =>
    obtain ⟨raw, rfl⟩ := h
    exact Kind.canonical_ofText raw
  | _ => trivial

theorem Request.kindHolds_true (r : Request) : r.KindHolds fun _ => True := by
  cases r <;> trivial

/-- **Something holds of the diagram that a plan saves**, if it saves one. -/
def Plan.Saves (P : Diagram → Prop) : Plan → Prop
  | save _ next => P next
  | _ => True

variable {P Q : Diagram → Prop}

theorem Plan.Saves.mono {p : Plan} (h : p.Saves P) (himp : ∀ d, P d → Q d) : p.Saves Q := by
  cases p with
  | save answer next => exact himp next h
  | _ => trivial

theorem saves_ofEdit {α : Type} {edited : Except WorkspaceError (α × Diagram)}
    {answer : α → Answer} (h : ∀ a next, edited = .ok (a, next) → P next) :
    (Plan.ofEdit edited answer).Saves P := by
  cases edited with
  | error e => trivial
  | ok result => exact h result.1 result.2 rfl

theorem saves_atPosition {position : Position} {plan : Plan}
    (h : position.isFinite = true → plan.Saves P) : (plan.atPosition position).Saves P := by
  unfold Plan.atPosition
  split
  · rename_i hfinite
    exact h hfinite
  · trivial

theorem savesSound_modifyNode (h : d.Sound holds) {id : String} {change : Node → Node}
    (hid : ∀ n, (change n).id = n.id) (hkind : ∀ n, (change n).kind = n.kind)
    (hposition : ∀ n, n.position.isFinite = true → (change n).position.isFinite = true)
    (answer : Unit → Answer) :
    (Plan.ofEdit (Diagram.modifyNode id change d).run.result answer).Saves
      (Diagram.Sound holds) := by
  apply saves_ofEdit
  intro a next hedit
  obtain ⟨-, rfl⟩ := Diagram.eq_of_modifyNode hedit
  exact h.modify id hid hkind hposition

theorem isFinite_quickAddPosition : quickAddPosition.isFinite = true := by
  have hfinite : (Binary64.ofNat 300).isFinite = true := Binary64.isFinite_ofNat (by decide)
  exact Bool.and_eq_true_iff.2 ⟨hfinite, hfinite⟩

/-- **What a request saves has distinct ids and finite positions**, where there is room for one more
component; and of its kinds holds what holds of canonical kinds and of the kind of the request. -/
theorem savesSound_plan (hcanonical : ∀ k : Kind, k.Canonical → holds k) (h : d.Sound holds)
    (hsize : d.nodes.length < UInt64.size - 1) {r : Request} (hr : r.KindHolds holds) :
    (r.plan d).Saves (Diagram.Sound holds) := by
  have hfresh := Diagram.nextNodeId_fresh hsize
  cases r with
  | addComponent kind position =>
    rw [Request.plan]
    apply saves_atPosition
    intro hfinite
    apply saves_ofEdit
    intro a next hedit
    rw [Diagram.result_addComponent] at hedit
    cases hedit
    exact h.append hfresh hfinite hr
  | quickAdd =>
    rw [Request.plan]
    apply saves_ofEdit
    intro a next hedit
    rw [Diagram.result_quickAdd] at hedit
    cases hedit
    have hserver : Kind.Canonical .server := Kind.canonical_of_mem_known (by decide)
    exact h.append hfresh isFinite_quickAddPosition (hcanonical _ hserver)
  | setProperty id key value =>
    rw [Request.plan]
    refine savesSound_modifyNode h ?_ ?_ ?_ _
    · exact fun _ => rfl
    · exact fun _ => rfl
    · exact fun _ hn => hn
  | renameNode id name =>
    rw [Request.plan]
    refine savesSound_modifyNode h ?_ ?_ ?_ _
    · exact fun _ => rfl
    · exact fun _ => rfl
    · exact fun _ hn => hn
  | moveNode id position =>
    rw [Request.plan]
    refine saves_atPosition fun hfinite => savesSound_modifyNode h ?_ ?_ ?_ _
    · exact fun _ => rfl
    · exact fun _ => rfl
    · exact fun _ _ => hfinite
  | removeNode id =>
    rw [Request.plan]
    apply saves_ofEdit
    intro a next hedit
    rw [Diagram.result_removeNode] at hedit
    split at hedit
    · cases hedit
    · cases hedit
      exact (h.sublist List.eraseP_sublist).withEdges _
  | connect source target sourceHandle targetHandle =>
    rw [Request.plan]
    split
    · trivial
    · apply saves_ofEdit
      intro a next hedit
      rw [Diagram.result_addEdge] at hedit
      cases hedit
      exact h.withEdges _
  | disconnect id =>
    rw [Request.plan]
    apply saves_ofEdit
    intro a next hedit
    rw [Diagram.result_removeEdge] at hedit
    split at hedit
    · cases hedit
    · cases hedit
      exact h.withEdges _
  | clear => trivial
  | importText text =>
    rw [Request.plan]
    split
    · trivial
    · rename_i himport
      exact (storable_of_importDiagram himport).sound hcanonical
  | selectFormat format => trivial

/-- **What a request saves survives it**, where its kind comes from a name and there is room for one
more component. -/
theorem savesStorable_plan (h : d.Storable) (hsize : d.nodes.length < UInt64.size - 1)
    {r : Request} (hr : r.KindNamed) : (r.plan d).Saves Diagram.Storable := by
  have hsound := Diagram.storable_iff_sound.1 h
  have hsaves := savesSound_plan (fun _ hk => hk) hsound hsize hr.canonical
  exact hsaves.mono fun _ hnext => Diagram.storable_iff_sound.2 hnext

end CloudDiagram
