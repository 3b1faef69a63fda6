import CloudDiagram.Proofs.Workspace.Plan

/-!
# Refusals change nothing

* `SteadyStore`: a store whose failures leave the stored text as it is;
* `Workspace.Agrees`: the same diagram, format and stored text, over any two stores;
* `carryOut_error`, `carryOut_ok`: a plan that is refused, and one that is not;
* **`refusals_are_noops`**: a session ends as if the refused requests had never been made.
-/

namespace CloudDiagram

/-- **A store whose failures change nothing.** It holds a text or none, which a save replaces and a
clearing removes, unless it is refused. -/
class SteadyStore (σ : Type) extends DiagramStore σ where
  content : σ → Option String
  content_save : ∀ s d, content (save s d).2 =
    match (save s d).1 with
    | .ok () => some d.exportText
    | .error _ => content s
  content_clear : ∀ s, content (clear s).2 =
    match (clear s).1 with
    | .ok () => none
    | .error _ => content s

instance : SteadyStore MemoryStore where
  content := MemoryStore.slot
  content_save _ _ := rfl
  content_clear _ := rfl

instance : SteadyStore UnreliableStore where
  content := UnreliableStore.slot
  content_save s d := by
    simp only [DiagramStore.save]
    cases s.failsSave (s.saves + 1) <;> rfl
  content_clear s := by
    simp only [DiagramStore.clear]
    cases s.failsClear <;> rfl

/-- **No save and no clearing is ever refused.** -/
def NeverFails (τ : Type) [DiagramStore τ] : Prop :=
  (∀ (t : τ) d, (DiagramStore.save t d).1 = .ok ()) ∧ ∀ t : τ, (DiagramStore.clear t).1 = .ok ()

theorem neverFails_memoryStore : NeverFails MemoryStore := ⟨fun _ _ => rfl, fun _ => rfl⟩

variable {σ τ : Type} [SteadyStore σ] [SteadyStore τ]

/-- **The same diagram, format and stored text.** -/
structure Workspace.Agrees (w : Workspace σ) (v : Workspace τ) : Prop where
  diagram_eq : w.diagram = v.diagram
  format_eq : w.format = v.format
  content_eq : SteadyStore.content w.store = SteadyStore.content v.store

theorem Workspace.Agrees.trans {υ : Type} [SteadyStore υ] {u : Workspace υ}
    {w : Workspace σ} {v : Workspace τ} (h : u.Agrees w) (h' : w.Agrees v) : u.Agrees v :=
  ⟨h.diagram_eq.trans h'.diagram_eq, h.format_eq.trans h'.format_eq,
    h.content_eq.trans h'.content_eq⟩

/-! ## Plans -/

theorem carryOut_error {p : Plan} {w : Workspace σ} {e : WorkspaceError}
    (h : (p.carryOut w).1 = .error e) : (p.carryOut w).2.Agrees w := by
  cases p with
  | refuse _ => exact ⟨rfl, rfl, rfl⟩
  | save answer next =>
    have hcontent := SteadyStore.content_save w.store next
    simp only [Plan.carryOut] at h ⊢
    generalize DiagramStore.save w.store next = saved at h hcontent ⊢
    obtain ⟨_ | _, store⟩ := saved
    · exact ⟨rfl, rfl, hcontent⟩
    · cases h
  | clear =>
    have hcontent := SteadyStore.content_clear w.store
    simp only [Plan.carryOut] at h ⊢
    generalize DiagramStore.clear w.store = cleared at h hcontent ⊢
    obtain ⟨_ | _, store⟩ := cleared
    · exact ⟨rfl, rfl, hcontent⟩
    · cases h
  | select format => cases h

theorem content_save_ok {answer a : Answer} {next : Diagram} {w : Workspace σ}
    (h : ((Plan.save answer next).carryOut w).1 = .ok a) :
    SteadyStore.content ((Plan.save answer next).carryOut w).2.store =
      some ((Plan.save answer next).carryOut w).2.diagram.exportText := by
  have hcontent := SteadyStore.content_save w.store next
  simp only [Plan.carryOut] at h ⊢
  generalize DiagramStore.save w.store next = saved at h hcontent ⊢
  obtain ⟨_ | _, store⟩ := saved
  · cases h
  · exact hcontent

/-- **A plan that is not refused** has the same effect over a store that never fails. -/
theorem carryOut_ok (hτ : NeverFails τ) {p : Plan} {w : Workspace σ} {v : Workspace τ} {a : Answer}
    (h : w.Agrees v) (hok : (p.carryOut w).1 = .ok a) :
    (p.carryOut v).1 = .ok a ∧ (p.carryOut w).2.Agrees (p.carryOut v).2 := by
  cases p with
  | refuse e => cases hok
  | save answer next =>
    have hw := SteadyStore.content_save w.store next
    have hv := SteadyStore.content_save v.store next
    have hsaved := hτ.1 v.store next
    simp only [Plan.carryOut] at hok ⊢
    generalize DiagramStore.save w.store next = saved at hok hw ⊢
    generalize DiagramStore.save v.store next = stored at hsaved hv ⊢
    obtain ⟨_ | _, store⟩ := saved
    · cases hok
    obtain ⟨_ | _, store'⟩ := stored
    · cases hsaved
    exact ⟨hok, rfl, h.format_eq, hw.trans hv.symm⟩
  | clear =>
    have hw := SteadyStore.content_clear w.store
    have hv := SteadyStore.content_clear v.store
    have hcleared := hτ.2 v.store
    simp only [Plan.carryOut] at hok ⊢
    generalize DiagramStore.clear w.store = cleared at hok hw ⊢
    generalize DiagramStore.clear v.store = emptied at hcleared hv ⊢
    obtain ⟨_ | _, store⟩ := cleared
    · cases hok
    obtain ⟨_ | _, store'⟩ := emptied
    · cases hcleared
    exact ⟨hok, rfl, h.format_eq, hw.trans hv.symm⟩
  | select format => exact ⟨hok, h.diagram_eq, rfl, h.content_eq⟩

/-! ## Requests -/

/-- The request edits the diagram or replaces it, but does not clear it. -/
def Request.Edits : Request → Prop
  | clear => False
  | selectFormat _ => False
  | _ => True

theorem exists_ofEdit {α : Type} (edited : Except WorkspaceError (α × Diagram))
    (answer : α → Answer) :
    (∃ e, Plan.ofEdit edited answer = .refuse e) ∨
      ∃ a next, Plan.ofEdit edited answer = .save a next := by
  cases edited with
  | error e => exact .inl ⟨e, rfl⟩
  | ok result => exact .inr ⟨_, _, rfl⟩

theorem exists_atPosition {position : Position} {plan : Plan}
    (h : (∃ e, plan = .refuse e) ∨ ∃ a next, plan = .save a next) :
    (∃ e, plan.atPosition position = .refuse e) ∨
      ∃ a next, plan.atPosition position = .save a next := by
  unfold Plan.atPosition
  split
  · exact h
  · exact .inl ⟨_, rfl⟩

theorem Request.Edits.plan {r : Request} (h : r.Edits) (d : Diagram) :
    (∃ e, r.plan d = .refuse e) ∨ ∃ answer next, r.plan d = .save answer next := by
  cases r with
  | addComponent kind position => exact exists_atPosition (exists_ofEdit _ _)
  | moveNode id position => exact exists_atPosition (exists_ofEdit _ _)
  | connect source target sourceHandle targetHandle =>
    rw [Request.plan]
    split
    · exact .inl ⟨_, rfl⟩
    · exact exists_ofEdit _ _
  | importText text =>
    rw [Request.plan]
    split
    · exact .inl ⟨_, rfl⟩
    · exact .inr ⟨_, _, rfl⟩
  | clear => exact h.elim
  | selectFormat format => exact h.elim
  | _ =>
    rw [Request.plan]
    exact exists_ofEdit _ _

/-! ## Sessions -/

/-- **The requests of a session that are not refused.** -/
def acceptedRequests (w : Workspace σ) : List Request → List Request
  | [] => []
  | r :: rest =>
    let accepted := acceptedRequests (r.perform w).result.2 rest
    match (r.perform w).result.1 with
    | .ok _ => r :: accepted
    | .error _ => accepted

theorem runRequests_acceptedRequests (hτ : NeverFails τ) {w : Workspace σ} {v : Workspace τ}
    (h : w.Agrees v) (requests : List Request) :
    (runRequests v (acceptedRequests w requests)).result.1 =
        (runRequests w requests).result.1.filter (·.isOk) ∧
      (runRequests w requests).result.2.Agrees
        (runRequests v (acceptedRequests w requests)).result.2 := by
  induction requests generalizing w v with
  | nil => exact ⟨rfl, h⟩
  | cons r rest ih =>
    rw [result_runRequests_cons, acceptedRequests]
    have hplan := result_perform r w
    cases houtcome : (r.perform w).result.1 with
    | error e =>
      rw [hplan] at houtcome
      have hnext := carryOut_error houtcome
      rw [← hplan] at hnext
      exact ih (hnext.trans h)
    | ok a =>
      rw [hplan] at houtcome
      have hnext := carryOut_ok hτ h houtcome
      rw [← hplan, h.diagram_eq, ← result_perform r v] at hnext
      obtain ⟨hanswers, hlast⟩ := ih hnext.2
      rw [result_runRequests_cons, hnext.1]
      exact ⟨congrArg (List.cons _) hanswers, hlast⟩

/-- **Refusals change nothing.** A refused request leaves the diagram, the format and the stored text
as they were, and an edit that is not refused leaves the text of the new diagram. So a session ends,
and its accepted requests are answered, as if the refused ones had not been made, over a store that
never fails. -/
theorem refusals_are_noops (hτ : NeverFails τ) :
    (∀ (w : Workspace σ) (r : Request) (e : WorkspaceError),
      (r.perform w).result.1 = .error e → (r.perform w).result.2.Agrees w) ∧
    (∀ (w : Workspace σ) (r : Request) (a : Answer), r.Edits → (r.perform w).result.1 = .ok a →
      SteadyStore.content (r.perform w).result.2.store =
        some (r.perform w).result.2.diagram.exportText) ∧
    ∀ (w : Workspace σ) (v : Workspace τ), w.Agrees v → ∀ requests : List Request,
      (runRequests v (acceptedRequests w requests)).result.1 =
          (runRequests w requests).result.1.filter (·.isOk) ∧
        (runRequests w requests).result.2.Agrees
          (runRequests v (acceptedRequests w requests)).result.2 := by
  refine ⟨fun w r e h => ?_, fun w r a hr h => ?_,
    fun w v h requests => runRequests_acceptedRequests hτ h requests⟩
  · rw [result_perform] at h ⊢
    exact carryOut_error h
  · rw [result_perform] at h ⊢
    obtain ⟨e, hplan⟩ | ⟨answer, next, hplan⟩ := hr.plan w.diagram
    · rw [hplan] at h
      cases h
    · rw [hplan] at h ⊢
      exact content_save_ok h

/-- Every other save is refused, and every clearing. -/
def UnreliableStore.sketch : UnreliableStore where
  slot := some "no document"
  saves := 0
  failsLoad := none
  failsSave := fun k => if k % 2 = 0 then some (.access "disk" "full") else none
  failsClear := some (.access "disk" "busy")

/-- An empty canvas over a store. -/
def Workspace.blank {σ : Type} (store : σ) : Workspace σ :=
  ⟨.empty, .default, .ofConfig .default, store⟩

theorem refusals_are_noops_sketch :
    NeverFails MemoryStore ∧
      (Workspace.blank UnreliableStore.sketch).Agrees
        (Workspace.blank (MemoryStore.mk (some "no document"))) ∧
      (acceptedRequests (Workspace.blank UnreliableStore.sketch) sketchRequests).length = 5 ∧
      (runRequests (Workspace.blank (MemoryStore.mk (some "no document")))
        (acceptedRequests (Workspace.blank UnreliableStore.sketch) sketchRequests)).result.1 =
        (runRequests (Workspace.blank UnreliableStore.sketch)
          sketchRequests).result.1.filter (·.isOk) := by
  have hagrees : (Workspace.blank UnreliableStore.sketch).Agrees
      (Workspace.blank (MemoryStore.mk (some "no document"))) := ⟨rfl, rfl, rfl⟩
  have hrun (requests : List Request) :
      (runRequests (Workspace.blank (MemoryStore.mk (some "no document")))
        (acceptedRequests (Workspace.blank UnreliableStore.sketch) requests)).result.1 =
        (runRequests (Workspace.blank UnreliableStore.sketch)
          requests).result.1.filter (·.isOk) :=
    ((refusals_are_noops neverFails_memoryStore).2.2 _ _ hagrees requests).1
  exact ⟨neverFails_memoryStore, hagrees, by decide +kernel, hrun sketchRequests⟩

end CloudDiagram
