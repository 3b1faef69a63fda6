import CloudDiagram.Proofs.Workspace.Joined
import CloudDiagram.Proofs.Workspace.Steady
import CloudDiagram.Proofs.Workspace.Storable
import CloudDiagram.Proofs.Workspace.Stored

/-!
# Edits of different places

* `Overwrite`, `Overwrite.Place`: an edit of one component, and what it writes there;
* `Overwrite.comm`: two of them that write different places of a component;
* `Diagram.overwritten`: the diagram with one component overwritten, or why it is refused;
* `overwritten_comm`, `overwritten_refused`: two edits in either order, on a diagram;
* `Holds`, `AcceptsSaves`: what a store holds as a text, and a store that refuses no save;
* **`independent_edits_commute`**: two edits of different places, in either order.
-/

namespace CloudDiagram

/-! ## One component -/

/-- **An edit of a component in place.** -/
inductive Overwrite
  | property (key : String) (value : PropertyValue)
  | rename (name : String)
  | move (position : Position)

namespace Overwrite

/-- What an edit writes in its component: one property, the name or the position. -/
inductive Place
  | property (key : String)
  | name
  | position
  deriving DecidableEq

/-- The place that is written. -/
def place : Overwrite → Place
  | property key _ => .property key
  | rename _ => .name
  | move _ => .position

/-- The component with the place overwritten. -/
def apply : Overwrite → Node → Node
  | property key value => fun n => { n with properties := n.properties.insert key value }
  | rename name => fun n => { n with name }
  | move position => fun n => { n with position }

/-- Why the edit is refused whatever the diagram: a position has to be finite. -/
def refusal? : Overwrite → Option WorkspaceError
  | move p => if p.isFinite then none else some (.invalidPosition p)
  | _ => none

theorem id_apply (o : Overwrite) (n : Node) : (o.apply n).id = n.id := by
  cases o <;> rfl

theorem comm {o₁ o₂ : Overwrite} (h : o₁.place ≠ o₂.place) (n : Node) :
    o₂.apply (o₁.apply n) = o₁.apply (o₂.apply n) := by
  cases o₁ with
  | property key₁ value₁ =>
    cases o₂ with
    | property key₂ value₂ =>
      have hkey : key₁ ≠ key₂ := fun heq => h (congrArg Place.property heq)
      have hcomm := KeyMap.insert_comm n.properties hkey value₁ value₂
      simp only [apply, hcomm]
    | rename _ => rfl
    | move _ => rfl
  | rename _ =>
    cases o₂ with
    | rename _ => exact absurd rfl h
    | property _ _ => rfl
    | move _ => rfl
  | move _ =>
    cases o₂ with
    | move _ => exact absurd rfl h
    | property _ _ => rfl
    | rename _ => rfl

end Overwrite

/-- The component that a request edits in place, and how. -/
def Request.overwrite? : Request → Option (String × Overwrite)
  | setProperty id key value => some (id, .property key value)
  | renameNode id name => some (id, .rename name)
  | moveNode id position => some (id, .move position)
  | _ => none

/-! ## A diagram -/

theorem any_id_changeFirst {change : Node → Node} (hid : ∀ n, (change n).id = n.id) (id id' : String)
    (nodes : List Node) :
    (Diagram.changeFirst id change nodes).any (·.id == id') = nodes.any (·.id == id') := by
  have hany (l : List Node) : l.any (·.id == id') = (l.map (·.id)).any (· == id') := by
    rw [List.any_map]
    rfl
  rw [hany, map_id_changeFirst hid, ← hany]

theorem changeFirst_at {id : String} {n : Node} (h : n.id = id) (change : Node → Node)
    (rest : List Node) : Diagram.changeFirst id change (n :: rest) = change n :: rest :=
  if_pos (beq_iff_eq.2 h)

theorem changeFirst_beside {id : String} {n : Node} (h : n.id ≠ id) (change : Node → Node)
    (rest : List Node) :
    Diagram.changeFirst id change (n :: rest) = n :: Diagram.changeFirst id change rest :=
  if_neg (mt beq_iff_eq.1 h)

/-- **Two components can be changed in either order**, and one component if the changes can. -/
theorem changeFirst_comm {id₁ id₂ : String} {change₁ change₂ : Node → Node}
    (hid₁ : ∀ n, (change₁ n).id = n.id) (hid₂ : ∀ n, (change₂ n).id = n.id)
    (h : id₁ ≠ id₂ ∨ ∀ n, change₂ (change₁ n) = change₁ (change₂ n)) (nodes : List Node) :
    Diagram.changeFirst id₂ change₂ (Diagram.changeFirst id₁ change₁ nodes) =
      Diagram.changeFirst id₁ change₁ (Diagram.changeFirst id₂ change₂ nodes) := by
  induction nodes with
  | nil => rfl
  | cons n rest ih =>
    by_cases h₁ : n.id = id₁
    · by_cases h₂ : n.id = id₂
      · have h₁' : (change₂ n).id = id₁ := (hid₂ n).trans h₁
        have h₂' : (change₁ n).id = id₂ := (hid₁ n).trans h₂
        have hcomm := h.resolve_left (not_not_intro (h₁.symm.trans h₂)) n
        rw [changeFirst_at h₁, changeFirst_at h₂', changeFirst_at h₂, changeFirst_at h₁', hcomm]
      · have h₂' : (change₁ n).id ≠ id₂ := fun heq => h₂ ((hid₁ n).symm.trans heq)
        rw [changeFirst_at h₁, changeFirst_beside h₂', changeFirst_beside h₂, changeFirst_at h₁]
    · by_cases h₂ : n.id = id₂
      · have h₁' : (change₂ n).id ≠ id₁ := fun heq => h₁ ((hid₂ n).symm.trans heq)
        rw [changeFirst_beside h₁, changeFirst_at h₂, changeFirst_at h₂, changeFirst_beside h₁']
      · rw [changeFirst_beside h₁, changeFirst_beside h₂, changeFirst_beside h₂,
          changeFirst_beside h₁, ih]

namespace Diagram

/-- **The diagram with a component overwritten**, or why that is refused. -/
def overwritten (d : Diagram) (id : String) (o : Overwrite) : Except WorkspaceError Diagram :=
  match o.refusal? with
  | some e => .error e
  | none =>
    match d.modifyNode? id o.apply with
    | none => .error (.nodeNotFound id)
    | some next => .ok next

variable {d d₁ d₂ : Diagram} {id id₁ id₂ : String} {o o₁ o₂ : Overwrite} {e : WorkspaceError}

theorem overwritten_eq_ok_iff : d.overwritten id o = .ok d₁ ↔
    o.refusal? = none ∧ d.nodes.any (·.id == id) = true ∧
      { d with nodes := changeFirst id o.apply d.nodes } = d₁ := by
  unfold overwritten modifyNode?
  cases o.refusal? with
  | some e => simp
  | none => by_cases hany : d.nodes.any (·.id == id) = true <;> simp [hany]

theorem overwritten_eq_error_iff : d.overwritten id o = .error e ↔
    o.refusal? = some e ∨
      o.refusal? = none ∧ d.nodes.any (·.id == id) = false ∧ .nodeNotFound id = e := by
  unfold overwritten modifyNode?
  cases o.refusal? with
  | some e => simp
  | none => by_cases hany : d.nodes.any (·.id == id) = true <;> simp [hany]

/-- What is refused is refused after another edit too, and for the same reason. -/
theorem overwritten_refused (h₁ : d.overwritten id₁ o₁ = .error e)
    (h₂ : d.overwritten id₂ o₂ = .ok d₂) : d₂.overwritten id₁ o₁ = .error e := by
  obtain ⟨-, -, rfl⟩ := overwritten_eq_ok_iff.1 h₂
  rw [overwritten_eq_error_iff] at h₁ ⊢
  rwa [any_id_changeFirst o₂.id_apply]

/-- **Two edits of different places** of a diagram can be made in either order. -/
theorem overwritten_comm (hapart : id₁ ≠ id₂ ∨ o₁.place ≠ o₂.place)
    (h₁ : d.overwritten id₁ o₁ = .ok d₁) (h₂ : d.overwritten id₂ o₂ = .ok d₂) :
    ∃ next, d₁.overwritten id₂ o₂ = .ok next ∧ d₂.overwritten id₁ o₁ = .ok next := by
  obtain ⟨hrefusal₁, hany₁, rfl⟩ := overwritten_eq_ok_iff.1 h₁
  obtain ⟨hrefusal₂, hany₂, rfl⟩ := overwritten_eq_ok_iff.1 h₂
  have hcomm := changeFirst_comm o₁.id_apply o₂.id_apply (hapart.imp_right Overwrite.comm) d.nodes
  refine ⟨_, overwritten_eq_ok_iff.2 ⟨hrefusal₂, ?_, rfl⟩,
    overwritten_eq_ok_iff.2 ⟨hrefusal₁, ?_, ?_⟩⟩
  · rwa [any_id_changeFirst o₁.id_apply]
  · rwa [any_id_changeFirst o₂.id_apply]
  · rw [hcomm]

end Diagram

/-! ## Stores -/

variable {σ : Type} [DiagramStore σ]

/-- **What a store holds as a text**: a save that is not refused leaves the text of the diagram. -/
def Holds (held : σ → Option String) : Prop :=
  ∀ s d, (DiagramStore.save s d).1 = .ok () → held (DiagramStore.save s d).2 = some d.exportText

theorem holds_content {τ : Type} [SteadyStore τ] : Holds fun s : τ => SteadyStore.content s := by
  intro s d h
  dsimp only
  rw [SteadyStore.content_save, h]

theorem holds_stored : Holds fun s : FileStore => s.stored.toOption.join := by
  intro s d h
  dsimp only
  rw [(FileStore.stored_save h).1]
  rfl

/-- The store after diagrams have been saved in turn. -/
def DiagramStore.saveAll (s : σ) (ds : List Diagram) : σ :=
  ds.foldl (fun s d => (DiagramStore.save s d).2) s

/-- **The store refuses no save**, whatever has been saved before. -/
def AcceptsSaves (s : σ) : Prop := ∀ earlier d, Accepts (DiagramStore.saveAll s earlier) d

theorem AcceptsSaves.save_eq {s : σ} (h : AcceptsSaves s) (d : Diagram) :
    DiagramStore.save s d = (.ok (), (DiagramStore.save s d).2) :=
  Prod.ext (h [] d) rfl

theorem AcceptsSaves.after {s : σ} (h : AcceptsSaves s) (d : Diagram) :
    AcceptsSaves (DiagramStore.save s d).2 :=
  fun earlier => h (d :: earlier)

/-! ## Requests -/

variable {r r' r₁ r₂ : Request} {id id₁ id₂ : String} {o o₁ o₂ : Overwrite} {w : Workspace σ}

theorem plan_overwrite (hr : r.overwrite? = some (id, o)) (d : Diagram) :
    r.plan d =
      match d.overwritten id o with
      | .error e => .refuse e
      | .ok next => .save .done next := by
  have hedit : r.plan d =
      match o.refusal? with
      | some e => .refuse e
      | none => .ofEdit (Diagram.modifyNode id o.apply d).run.result fun _ => .done := by
    cases r with
    | setProperty _ key value => cases hr; rfl
    | renameNode _ name => cases hr; rfl
    | moveNode _ position =>
      cases hr
      rw [Request.plan, Plan.atPosition, Overwrite.refusal?]
      split <;> rfl
    | _ => cases hr
  rw [hedit, Diagram.overwritten, Diagram.result_modifyNode]
  cases o.refusal? with
  | some e => rfl
  | none => cases d.modifyNode? id o.apply <;> rfl

theorem perform_refused {e : WorkspaceError} (hr : r.overwrite? = some (id, o))
    (h : w.diagram.overwritten id o = .error e) : (r.perform w).result = (.error e, w) := by
  rw [result_perform, plan_overwrite hr, h]
  rfl

theorem perform_saved {next : Diagram} (hr : r.overwrite? = some (id, o))
    (haccepts : AcceptsSaves w.store) (h : w.diagram.overwritten id o = .ok next) :
    (r.perform w).result = (.ok .done, w.saved next) := by
  rw [result_perform, plan_overwrite hr, h]
  dsimp only [Plan.carryOut]
  rw [haccepts.save_eq next]
  rfl

theorem result_runRequests_two {v u : Workspace σ} {a a' : Except WorkspaceError Answer}
    (h : (r.perform w).result = (a, v)) (h' : (r'.perform v).result = (a', u)) :
    (runRequests w [r, r']).result = ([a, a'], u) := by
  rw [result_runRequests_cons, h, result_runRequests_cons, h']
  rfl

/-- **Independent edits commute.** Two requests that set a property, rename or move, and that do not
write the same place (of two components, or two places of one), get the same answers in either order
from a store that accepts saves. They leave the same diagram, and the store holds the same text. -/
theorem independent_edits_commute {held : σ → Option String} (hheld : Holds held)
    (haccepts : AcceptsSaves w.store) (h₁ : r₁.overwrite? = some (id₁, o₁))
    (h₂ : r₂.overwrite? = some (id₂, o₂)) (hapart : id₁ ≠ id₂ ∨ o₁.place ≠ o₂.place) :
    ∃ a₁ a₂ v v', (runRequests w [r₁, r₂]).result = ([a₁, a₂], v) ∧
      (runRequests w [r₂, r₁]).result = ([a₂, a₁], v') ∧
      v.diagram = v'.diagram ∧ held v.store = held v'.store := by
  cases hd₁ : w.diagram.overwritten id₁ o₁ with
  | error e₁ =>
    have hrefused₁ := perform_refused h₁ hd₁
    cases hd₂ : w.diagram.overwritten id₂ o₂ with
    | error e₂ =>
      have hrefused₂ := perform_refused h₂ hd₂
      exact ⟨_, _, w, w, result_runRequests_two hrefused₁ hrefused₂,
        result_runRequests_two hrefused₂ hrefused₁, rfl, rfl⟩
    | ok d₂ =>
      have hsaved₂ := perform_saved h₂ haccepts hd₂
      have hstill : (r₁.perform (w.saved d₂)).result = (.error e₁, w.saved d₂) :=
        perform_refused h₁ (Diagram.overwritten_refused hd₁ hd₂)
      exact ⟨_, _, _, _, result_runRequests_two hrefused₁ hsaved₂,
        result_runRequests_two hsaved₂ hstill, rfl, rfl⟩
  | ok d₁ =>
    have hsaved₁ := perform_saved h₁ haccepts hd₁
    have haccepts₁ : AcceptsSaves (w.saved d₁).store := haccepts.after d₁
    cases hd₂ : w.diagram.overwritten id₂ o₂ with
    | error e₂ =>
      have hrefused₂ := perform_refused h₂ hd₂
      have hstill : (r₂.perform (w.saved d₁)).result = (.error e₂, w.saved d₁) :=
        perform_refused h₂ (Diagram.overwritten_refused hd₂ hd₁)
      exact ⟨_, _, _, _, result_runRequests_two hsaved₁ hstill,
        result_runRequests_two hrefused₂ hsaved₁, rfl, rfl⟩
    | ok d₂ =>
      have hsaved₂ := perform_saved h₂ haccepts hd₂
      have haccepts₂ : AcceptsSaves (w.saved d₂).store := haccepts.after d₂
      -- both orders save the same diagram last
      obtain ⟨next, hnext₂, hnext₁⟩ := Diagram.overwritten_comm hapart hd₁ hd₂
      have hlast₂ := perform_saved (w := w.saved d₁) h₂ haccepts₁ hnext₂
      have hlast₁ := perform_saved (w := w.saved d₂) h₁ haccepts₂ hnext₁
      refine ⟨_, _, _, _, result_runRequests_two hsaved₁ hlast₂,
        result_runRequests_two hsaved₂ hlast₁, rfl, ?_⟩
      have hheld₁ : held ((w.saved d₁).saved next).store = some next.exportText :=
        hheld _ _ (haccepts₁ [] next)
      have hheld₂ : held ((w.saved d₂).saved next).store = some next.exportText :=
        hheld _ _ (haccepts₂ [] next)
      rw [hheld₁, hheld₂]

/-- A canvas with one server, over an empty memory. -/
def Workspace.oneServer : Workspace MemoryStore :=
  { Workspace.blank ⟨none⟩ with diagram := ⟨[Node.ofKind "node-1" .server "Web"], []⟩ }

theorem independent_edits_commute_twoKeys :
    let r₁ : Request := .setProperty "node-1" "instanceType" (.text "m5.large")
    let r₂ : Request := .setProperty "node-1" "ami" (.bool true)
    r₁.overwrite? = some ("node-1", .property "instanceType" (.text "m5.large")) ∧
      r₂.overwrite? = some ("node-1", .property "ami" (.bool true)) ∧
      (runRequests .oneServer [r₁, r₂]).result.1 = [.ok .done, .ok .done] ∧
      ∃ a₁ a₂ v v', (runRequests .oneServer [r₁, r₂]).result = ([a₁, a₂], v) ∧
        (runRequests .oneServer [r₂, r₁]).result = ([a₂, a₁], v') ∧
        v.diagram = v'.diagram ∧ v.store.slot = v'.store.slot := by
  have hheld : Holds MemoryStore.slot := holds_content
  exact ⟨rfl, rfl, rfl,
    independent_edits_commute hheld (fun _ _ => rfl) rfl rfl (.inr (by decide))⟩

end CloudDiagram
