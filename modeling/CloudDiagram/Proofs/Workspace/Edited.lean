import CloudDiagram.Proofs.Diagram.Linked
import CloudDiagram.Proofs.Workspace.Storable

/-!
# What a request makes of a diagram

* `Diagram.Edited`: the diagrams that edits make of a diagram, with their answers;
* **`edited_of_plan`**: what a request saves is one of these or an imported diagram;
* `importedDuring`: the diagrams that are imported in a session;
* `KeptByEdits`: a property that edits keep;
* **`KeptByEdits.session`**: every diagram of a session has it if the first one and the imported ones
  have it.
-/

namespace CloudDiagram

/-! ## Edits -/

/-- **What an edit makes of a diagram**, and its answer. -/
inductive Diagram.Edited (d : Diagram) : Answer → Diagram → Prop
  | placed {n : Node} (hid : n.id = d.nextNodeId) :
      d.Edited (.id n.id) { d with nodes := d.nodes ++ [n] }
  | changed (id : String) {change : Node → Node} (hchange : ∀ n, (change n).id = n.id) :
      d.Edited .done { d with nodes := changeFirst id change d.nodes }
  | removed {id : String} {n : Node} (hfind : d.nodes.find? (·.id == id) = some n) :
      d.Edited (.node n) ⟨d.nodes.eraseP (·.id == id), d.edges.filter fun c => !c.touches id⟩
  | joined {source target : String} {sourceHandle targetHandle : Option String} {c : Connection}
      (hnew : d.newConnection source target sourceHandle targetHandle = .ok c) :
      d.Edited (.id c.id) { d with edges := d.edges ++ [c] }
  | parted {id : String} {c : Connection} (hfind : d.edges.find? (·.id == id) = some c) :
      d.Edited (.connection c) { d with edges := d.edges.eraseP (·.id == id) }

/-- **The request places a component.** -/
def Request.Places : Request → Prop
  | addComponent _ _ => True
  | quickAdd => True
  | _ => False

variable {d next : Diagram} {answer : Answer} {r : Request}

theorem placed_of_plan (hr : r.Places) (h : r.plan d = .save answer next) :
    ∃ n : Node, n.id = d.nextNodeId ∧ answer = .id n.id ∧
      next = { d with nodes := d.nodes ++ [n] } := by
  cases r with
  | addComponent kind position =>
    rw [Request.plan] at h
    obtain ⟨a, hedit, rfl⟩ := eq_save_of_ofEdit (eq_save_of_atPosition h)
    rw [Diagram.result_addComponent] at hedit
    cases hedit
    exact ⟨_, rfl, rfl, rfl⟩
  | quickAdd =>
    rw [Request.plan] at h
    obtain ⟨a, hedit, rfl⟩ := eq_save_of_ofEdit h
    rw [Diagram.result_quickAdd] at hedit
    cases hedit
    exact ⟨_, rfl, rfl, rfl⟩
  | _ => exact hr.elim

theorem changed_of_edit {id : String} {change : Node → Node}
    (h : Plan.ofEdit (Diagram.modifyNode id change d).run.result (fun _ => .done) =
      .save answer next) (hchange : ∀ n, (change n).id = n.id) : d.Edited answer next := by
  obtain ⟨a, hedit, rfl⟩ := eq_save_of_ofEdit h
  obtain ⟨-, rfl⟩ := Diagram.eq_of_modifyNode hedit
  exact .changed id hchange

/-- **What a request saves** is an edited diagram or an imported one. -/
theorem edited_of_plan (h : r.plan d = .save answer next) :
    d.Edited answer next ∨ ∃ text, r = .importText text ∧ (importDiagram text).result = .ok next := by
  cases r with
  | addComponent kind position =>
    obtain ⟨n, hid, rfl, rfl⟩ := placed_of_plan (r := .addComponent kind position) trivial h
    exact .inl (.placed hid)
  | quickAdd =>
    obtain ⟨n, hid, rfl, rfl⟩ := placed_of_plan (r := .quickAdd) trivial h
    exact .inl (.placed hid)
  | setProperty id key value =>
    rw [Request.plan] at h
    exact .inl (changed_of_edit h fun _ => rfl)
  | renameNode id name =>
    rw [Request.plan] at h
    exact .inl (changed_of_edit h fun _ => rfl)
  | moveNode id position =>
    rw [Request.plan] at h
    exact .inl (changed_of_edit (eq_save_of_atPosition h) fun _ => rfl)
  | removeNode id =>
    rw [Request.plan] at h
    obtain ⟨a, hedit, rfl⟩ := eq_save_of_ofEdit h
    rw [Diagram.result_removeNode] at hedit
    split at hedit
    · cases hedit
    · rename_i hfind
      cases hedit
      exact .inl (.removed hfind)
  | connect source target sourceHandle targetHandle =>
    rw [Request.plan] at h
    split at h
    · cases h
    · rename_i hnew
      obtain ⟨a, hedit, rfl⟩ := eq_save_of_ofEdit h
      rw [Diagram.result_addEdge] at hedit
      cases hedit
      exact .inl (.joined hnew)
  | disconnect id =>
    rw [Request.plan] at h
    obtain ⟨a, hedit, rfl⟩ := eq_save_of_ofEdit h
    rw [Diagram.result_removeEdge] at hedit
    split at hedit
    · cases hedit
    · rename_i hfind
      cases hedit
      exact .inl (.parted hfind)
  | clear => cases h
  | importText text =>
    rw [Request.plan] at h
    split at h
    · cases h
    · rename_i himport
      cases h
      exact .inr ⟨text, rfl, himport⟩
  | selectFormat format => cases h

/-! ## Sessions -/

section Session

variable {σ : Type} [DiagramStore σ] {w : Workspace σ}

/-- The diagram that a request imports, by its outcome. -/
def Request.imported? : Request → Except WorkspaceError Answer → Option Diagram
  | importText text, .ok _ => (importDiagram text).result.toOption
  | _, _ => none

/-- **The diagrams that are imported in a session**, without those that are refused. -/
def importedDuring (w : Workspace σ) : List Request → List Diagram
  | [] => []
  | r :: rest =>
    (r.imported? (r.perform w).result.1).toList ++ importedDuring (r.perform w).result.2 rest

/-- **A property that edits keep**, and that an emptied canvas has. -/
structure KeptByEdits (P : Diagram → Prop) : Prop where
  empty : P .empty
  edited : ∀ {d next : Diagram} {answer : Answer}, P d → d.Edited answer next → P next

namespace KeptByEdits

variable {P : Diagram → Prop}

theorem perform (hP : KeptByEdits P) (h : P w.diagram) (r : Request)
    (himport : ∀ d ∈ r.imported? (r.perform w).result.1, P d) :
    P (r.perform w).result.2.diagram := by
  rw [result_perform] at himport ⊢
  obtain hkept | hempty | ⟨answer, next, hplan, hanswer, hnext⟩ :=
    diagram_carryOut (r.plan w.diagram) w
  · rw [hkept]
    exact h
  · rw [hempty]
    exact hP.empty
  · rw [hnext]
    obtain hedited | ⟨text, rfl, htext⟩ := edited_of_plan hplan
    · exact hP.edited h hedited
    · rw [hanswer] at himport
      exact himport next (by simp [Request.imported?, htext, Except.toOption])

/-- **Every diagram of a session has it** if the first one and the imported ones have it. -/
theorem session (hP : KeptByEdits P) (h : P w.diagram) {requests : List Request}
    (himports : ∀ d ∈ importedDuring w requests, P d) :
    ∀ d ∈ diagramsDuring w requests, P d := by
  induction requests generalizing w with
  | nil => exact List.forall_mem_singleton.2 h
  | cons r rest ih =>
    rw [importedDuring, List.forall_mem_append] at himports
    have hnext := hP.perform h r fun d hd => himports.1 d (Option.mem_toList.2 hd)
    exact List.forall_mem_cons.2 ⟨h, ih hnext himports.2⟩

end KeptByEdits

end Session

end CloudDiagram
