import CloudDiagram.Proofs.Exchange.RoundTrip
import CloudDiagram.Proofs.Workspace.Storable

/-!
# Reopening a workspace

* `MemoryStore.diagram`, `result_ofStore`: what a workspace over a text in memory starts from;
* `Workspace.Settled`: the diagram survives a save and is what is stored;
* **`settled_perform`**, `settled_runRequests`: requests keep a workspace settled;
* `Workspace.Alike`: workspaces that differ at most in the selected format;
* **`reopen_transparent`**: a workspace can be reopened at any point of a session.
-/

namespace CloudDiagram

/-- **The diagram that is taken up** from a text in memory; an unreadable one is discarded. -/
def MemoryStore.diagram (s : MemoryStore) : Diagram :=
  match s.slot with
  | none => .empty
  | some text =>
    match (importDiagram text).result with
    | .ok d => d
    | .error _ => .empty

theorem MemoryStore.diagram_some (text : String) :
    (MemoryStore.mk (some text)).diagram =
      match (importDiagram text).result with
      | .ok d => d
      | .error _ => .empty := rfl

theorem result_ofStore_of_load {σ : Type} [DiagramStore σ] {s : σ} {slot : Option String}
    (h : DiagramStore.load s = loadSlot slot) (config : GeneratorConfig) :
    (Workspace.ofStore s config).result =
      .ok ⟨(MemoryStore.mk slot).diagram, .default, .ofConfig config, s⟩ := by
  rw [Workspace.ofStore, h]
  obtain _ | text := slot
  · rfl
  · rw [MemoryStore.diagram_some, Noted.result_bind, loadSlot, loadText, Noted.result_bind]
    cases (importDiagram text).result <;> rfl

/-- **A workspace over a text in memory opens**, whatever the text. -/
theorem result_ofStore (s : MemoryStore) (config : GeneratorConfig) :
    (Workspace.ofStore s config).result = .ok ⟨s.diagram, .default, .ofConfig config, s⟩ :=
  result_ofStore_of_load rfl config

theorem MemoryStore.storable_diagram (s : MemoryStore) : s.diagram.Storable := by
  unfold MemoryStore.diagram
  split
  · exact Diagram.storable_empty
  · split
    · rename_i himport
      exact storable_of_importDiagram himport
    · exact Diagram.storable_empty

/-- **A saved diagram can be read**, with the numbers and kinds that its own are read as. -/
theorem importDiagram_exportText_reread {d : Diagram} {holds : Kind → Prop} (h : d.Sound holds) :
    (importDiagram d.exportText).result = .ok d.reread := by
  rw [importDiagram, Attempt.result_map, importDocument_exportText_reread h]
  exact congrArg Except.ok (ExchangeDocument.toDiagram_ofDiagram d.reread)

theorem MemoryStore.diagram_exportText_reread {d : Diagram} {holds : Kind → Prop} (h : d.Sound holds) :
    (MemoryStore.mk (some d.exportText)).diagram = d.reread := by
  rw [MemoryStore.diagram_some, importDiagram_exportText_reread h]

theorem MemoryStore.diagram_exportText {d : Diagram} (h : d.Storable) (hfloats : d.FloatsReadBack) :
    (MemoryStore.mk (some d.exportText)).diagram = d := by
  rw [MemoryStore.diagram_exportText_reread (Diagram.storable_iff_sound.1 h),
    Diagram.reread_eq h hfloats]

/-! ## Settled workspaces -/

/-- **The diagram survives a save and is what is stored.** -/
structure Workspace.Settled (config : GeneratorConfig) (w : Workspace MemoryStore) : Prop where
  storable : w.diagram.Storable
  diagram_eq : w.store.diagram = w.diagram
  generator_eq : w.generator = .ofConfig config

variable {config : GeneratorConfig} {w : Workspace MemoryStore}

theorem settled_ofStore (s : MemoryStore) (config : GeneratorConfig) :
    Workspace.Settled config ⟨s.diagram, .default, .ofConfig config, s⟩ :=
  ⟨s.storable_diagram, rfl, rfl⟩

theorem Workspace.Settled.result_ofStore (h : w.Settled config) :
    (Workspace.ofStore w.store config).result = .ok { w with format := .default } := by
  rw [CloudDiagram.result_ofStore, h.diagram_eq, ← h.generator_eq]

/-- **A request keeps a workspace settled**, whether it is refused or not. -/
theorem settled_perform (h : w.Settled config) {r : Request} (hr : r.KindNamed)
    (hsize : w.diagram.nodes.length < UInt64.size - 1)
    (hfloats : (r.perform w).result.2.diagram.FloatsReadBack) :
    (r.perform w).result.2.Settled config := by
  have hsaves := savesStorable_plan h.storable hsize hr
  rw [result_perform] at hfloats ⊢
  cases hplan : r.plan w.diagram with
  | refuse e => exact h
  | save answer next =>
    rw [hplan] at hsaves hfloats
    exact ⟨hsaves, MemoryStore.diagram_exportText hsaves hfloats, h.generator_eq⟩
  | clear => exact ⟨Diagram.storable_empty, rfl, h.generator_eq⟩
  | select format => exact ⟨h.storable, h.diagram_eq, h.generator_eq⟩

theorem settled_runRequests (h : w.Settled config) {requests : List Request}
    (hkinds : ∀ r ∈ requests, r.KindNamed)
    (hdiagrams : ∀ d ∈ diagramsDuring w requests,
      d.nodes.length < UInt64.size - 1 ∧ d.FloatsReadBack) :
    (runRequests w requests).result.2.Settled config := by
  induction requests generalizing w with
  | nil => exact h
  | cons r rest ih =>
    obtain ⟨hr, hrest⟩ := List.forall_mem_cons.1 hkinds
    obtain ⟨hnow, hlater⟩ := List.forall_mem_cons.1 hdiagrams
    have hnext := (hlater _ (mem_diagramsDuring_self _ rest)).2
    exact ih (settled_perform h hr hnow.1 hnext) hrest hlater

/-! ## Workspaces that differ in the format -/

section Alike

variable {σ : Type} [DiagramStore σ]

/-- **The workspaces differ at most in the selected format.** -/
structure Workspace.Alike (v w : Workspace σ) : Prop where
  diagram_eq : v.diagram = w.diagram
  generator_eq : v.generator = w.generator
  store_eq : v.store = w.store

variable {v w : Workspace σ}

omit [DiagramStore σ] in
theorem alike_format (w : Workspace σ) (format : Format) : Workspace.Alike { w with format } w :=
  ⟨rfl, rfl, rfl⟩

/-- A plan has the same effect on both. -/
theorem alike_carryOut (h : v.Alike w) (p : Plan) :
    (p.carryOut v).1 = (p.carryOut w).1 ∧ (p.carryOut v).2.Alike (p.carryOut w).2 := by
  obtain ⟨hdiagram, hgenerator, hstore⟩ := h
  cases p with
  | refuse e => exact ⟨rfl, hdiagram, hgenerator, hstore⟩
  | save answer next =>
    simp only [Plan.carryOut, hstore]
    obtain ⟨_ | _, store⟩ := DiagramStore.save w.store next
    · exact ⟨rfl, hdiagram, hgenerator, rfl⟩
    · exact ⟨rfl, rfl, hgenerator, rfl⟩
  | clear =>
    simp only [Plan.carryOut, hstore]
    obtain ⟨_ | _, store⟩ := DiagramStore.clear w.store
    · exact ⟨rfl, hdiagram, hgenerator, rfl⟩
    · exact ⟨rfl, rfl, hgenerator, rfl⟩
  | select format => exact ⟨rfl, hdiagram, hgenerator, hstore⟩

/-- **A session has the same answers on both** and leaves them alike. -/
theorem alike_runRequests (h : v.Alike w) (requests : List Request) :
    (runRequests v requests).result.1 = (runRequests w requests).result.1 ∧
      (runRequests v requests).result.2.Alike (runRequests w requests).result.2 := by
  induction requests generalizing v w with
  | nil => exact ⟨rfl, h⟩
  | cons r rest ih =>
    have hplan := alike_carryOut h (r.plan w.diagram)
    rw [← result_perform r w, ← h.diagram_eq, ← result_perform r v] at hplan
    rw [result_runRequests_cons, result_runRequests_cons, hplan.1]
    obtain ⟨hanswers, hlast⟩ := ih hplan.2
    exact ⟨congrArg (List.cons _) hanswers, hlast⟩

end Alike

/-! ## Reopening -/

/-- **Reopening is transparent.** Whatever a text in memory holds, a workspace opens on it, and after
any session a second one opens on what is stored then, with the diagram as it is. A session that goes
on there has the answers, the diagram and the store of one that is not interrupted. -/
theorem reopen_transparent (slot : Option String) (config : GeneratorConfig) :
    ∃ w, (Workspace.ofStore (MemoryStore.mk slot) config).result = .ok w ∧
      ∀ before : List Request, (∀ r ∈ before, r.KindNamed) →
        (∀ d ∈ diagramsDuring w before, d.nodes.length < UInt64.size - 1 ∧ d.FloatsReadBack) →
        let now := (runRequests w before).result.2
        let again := { now with format := .default }
        (Workspace.ofStore now.store config).result = .ok again ∧
          ∀ after : List Request,
            (runRequests w (before ++ after)).result.1 =
              (runRequests w before).result.1 ++ (runRequests again after).result.1 ∧
            (runRequests again after).result.2.Alike
              (runRequests w (before ++ after)).result.2 := by
  refine ⟨_, result_ofStore _ config, fun before hkinds hdiagrams => ?_⟩
  have hsettled := settled_runRequests (settled_ofStore _ config) hkinds hdiagrams
  refine ⟨hsettled.result_ofStore, fun after => ?_⟩
  rw [result_runRequests_append]
  refine ⟨congrArg (List.append _) (Eq.symm ?_), ?_⟩
  · exact (alike_runRequests (alike_format _ .default) after).1
  · exact (alike_runRequests (alike_format _ .default) after).2

theorem reopen_transparent_sketch :
    ∃ w, (Workspace.ofStore (MemoryStore.mk (some "no document")) .default).result = .ok w ∧
      (∀ r ∈ sketchRequests, r.KindNamed) ∧
      (∀ d ∈ diagramsDuring w sketchRequests,
        d.nodes.length < UInt64.size - 1 ∧ d.FloatsReadBack) ∧
      (Workspace.ofStore (runRequests w sketchRequests).result.2.store .default).result =
        .ok { (runRequests w sketchRequests).result.2 with format := .default } := by
  obtain ⟨w, hopen, hreopen⟩ := reopen_transparent (some "no document") .default
  have hkinds : ∀ r ∈ sketchRequests, r.KindNamed := by
    simp [sketchRequests, Request.KindNamed]
  have hw := Except.ok.inj (hopen.symm.trans (result_ofStore _ _))
  have hdiagrams : ∀ d ∈ diagramsDuring w sketchRequests,
      d.nodes.length < UInt64.size - 1 ∧ d.FloatsReadBack := by
    subst hw
    decide +kernel
  exact ⟨w, hopen, hkinds, hdiagrams, (hreopen sketchRequests hkinds hdiagrams).1⟩

end CloudDiagram
