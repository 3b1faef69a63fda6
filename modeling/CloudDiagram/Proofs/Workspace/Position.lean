import CloudDiagram.Proofs.Json.Exact
import CloudDiagram.Proofs.Workspace.Reachable

/-!
# Positions that survive a save

* `Request.placed?`: the component that a request puts somewhere, by its answer;
* `position_of_placed`: it is there afterwards;
* `saved_of_placed`: so it is in the text that is saved, whatever kinds the components have;
* **`position_survives`**: a workspace reopens on this text, with the position that the coordinates are
  read as, and with the position itself if these have at most fifteen digits;
* `position_drifts`: with coordinates of more digits it may be another one.
-/

namespace CloudDiagram

/-! ## Components of an id -/

theorem find?_changeFirst {change : Node → Node} (hid : ∀ n, (change n).id = n.id) (id : String)
    (nodes : List Node) : (Diagram.changeFirst id change nodes).find? (·.id == id) =
      (nodes.find? (·.id == id)).map change := by
  induction nodes with
  | nil => rfl
  | cons n rest ih =>
    unfold Diagram.changeFirst
    cases hn : n.id == id
    · simp only [List.find?_cons, hn, Bool.false_eq_true, if_false, ih]
    · simp only [List.find?_cons, hid, hn, if_true, Option.map_some]

/-! ## Placing a component -/

/-- **The component that a request puts somewhere**, by its answer: its id and its position. -/
def Request.placed? : Request → Answer → Option (String × Position)
  | moveNode id position, _ => some (id, position)
  | addComponent _ position, .id id => some (id, position)
  | _, _ => none

/-- **The position of the component of an id.** -/
def Diagram.position? (d : Diagram) (id : String) : Option Position := (d.node? id).map (·.position)

variable {d next : Diagram} {answer : Answer} {id : String} {p : Position}

theorem position_moveNode (h : (Request.moveNode id p).plan d = .save answer next) :
    next.position? id = some p := by
  obtain ⟨a, hedit, -⟩ := eq_save_of_ofEdit (eq_save_of_atPosition h)
  obtain ⟨hany, rfl⟩ := Diagram.eq_of_modifyNode hedit
  obtain ⟨n, hn⟩ := Option.isSome_iff_exists.1 (List.find?_isSome.2 (List.any_eq_true.1 hany))
  rw [Diagram.position?, Diagram.node?, find?_changeFirst, hn]
  · rfl
  · exact fun _ => rfl

theorem position_addComponent {kind : Kind} (hsize : d.nodes.length < UInt64.size - 1)
    (h : (Request.addComponent kind p).plan d = .save answer next) :
    answer = .id d.nextNodeId ∧ next.position? d.nextNodeId = some p := by
  have hplan := eq_save_of_atPosition h
  rw [Diagram.result_addComponent] at hplan
  cases hplan
  refine ⟨rfl, ?_⟩
  have hfresh := Diagram.nextNodeId_fresh hsize
  exact congrArg (Option.map _) (find?_append_of_fresh (n := { Node.ofKind d.nextNodeId kind kind.label
    with label := some kind.label, position := p }) hfresh)

theorem position_of_placed {r : Request} (hsize : d.nodes.length < UInt64.size - 1)
    (hplaced : r.placed? answer = some (id, p)) (h : r.plan d = .save answer next) :
    next.position? id = some p := by
  cases r with
  | moveNode id' p' =>
    cases hplaced
    exact position_moveNode h
  | addComponent kind p' =>
    obtain ⟨rfl, hnext⟩ := position_addComponent hsize h
    cases hplaced
    exact hnext
  | _ => cases hplaced

/-! ## Reopening -/

theorem atPosition_ofEdit_cases {α : Type} (p : Position)
    (edited : Except WorkspaceError (α × Diagram)) (answer : α → Answer) :
    (∃ e, (Plan.ofEdit edited answer).atPosition p = .refuse e) ∨
      ∃ a next, (Plan.ofEdit edited answer).atPosition p = .save a next := by
  unfold Plan.atPosition
  split
  · cases edited with
    | error e => exact .inl ⟨e, rfl⟩
    | ok result => exact .inr ⟨answer result.1, result.2, rfl⟩
  · exact .inl ⟨_, rfl⟩

theorem plan_of_placed {r : Request} (hplaced : r.placed? answer = some (id, p)) (d : Diagram) :
    (∃ e, r.plan d = .refuse e) ∨ ∃ a next, r.plan d = .save a next := by
  cases r with
  | addComponent kind p' => exact atPosition_ofEdit_cases p' _ _
  | moveNode id' p' => exact atPosition_ofEdit_cases p' _ _
  | _ => cases hplaced

theorem position?_reread (d : Diagram) (id : String) :
    d.reread.position? id = (d.position? id).map Position.reread := by
  have hid (n : Node) : (n.reread.id == id) = (n.id == id) := rfl
  rw [Diagram.position?, Diagram.position?, Diagram.node?, Diagram.node?, Diagram.reread,
    List.find?_map, Option.map_map, Option.map_map]
  rfl

/-- **What a request puts somewhere** is in the text that is saved. -/
theorem saved_of_placed {w next : Workspace MemoryStore} (h : w.diagram.Sound fun _ => True)
    (hsize : w.diagram.nodes.length < UInt64.size - 1) {r : Request}
    (hperform : (r.perform w).result = (.ok answer, next))
    (hplaced : r.placed? answer = some (id, p)) :
    next.diagram.Sound (fun _ => True) ∧ next.store.slot = some next.diagram.exportText ∧
      next.diagram.position? id = some p := by
  have hsaves := savesSound_plan (fun _ _ => trivial) h hsize r.kindHolds_true
  rw [result_perform] at hperform
  obtain ⟨e, hplan⟩ | ⟨a, saved, hplan⟩ := plan_of_placed hplaced w.diagram
  · rw [hplan] at hperform
    cases hperform
  · rw [hplan] at hperform hsaves
    cases hperform
    exact ⟨hsaves, rfl, position_of_placed hsize hplaced hplan⟩

/-- **It is where its coordinates are read** when the text is taken up again. -/
theorem taken_up_of_placed {w next : Workspace MemoryStore} (h : w.diagram.Sound fun _ => True)
    (hsize : w.diagram.nodes.length < UInt64.size - 1) {r : Request}
    (hperform : (r.perform w).result = (.ok answer, next))
    (hplaced : r.placed? answer = some (id, p)) :
    next.store.diagram = next.diagram.reread ∧
      next.store.diagram.position? id = some p.reread := by
  obtain ⟨hnext, hslot, hposition⟩ := saved_of_placed h hsize hperform hplaced
  have hdiagram : next.store.diagram = next.diagram.reread := by
    rw [← MemoryStore.diagram_exportText_reread hnext, ← hslot]
  exact ⟨hdiagram, by rw [hdiagram, position?_reread, hposition, Option.map_some]⟩

/-- **A position survives a save.** Whatever text a workspace started from and whatever session led to
it, once a request has put a component somewhere the saved text can be read, and the workspace
reopens on it: with the numbers and kinds that those of the diagram are read as, and with the very
position of the component if its coordinates have at most fifteen digits and twenty-two places. -/
theorem position_survives (slot : Option String) (config : GeneratorConfig) :
    ∃ w, (Workspace.ofStore (MemoryStore.mk slot) config).result = .ok w ∧
      ∀ requests : List Request,
        (∀ d ∈ diagramsDuring w requests, d.nodes.length < UInt64.size - 1) →
        ∀ (r : Request) (answer : Answer) (next : Workspace MemoryStore),
          (r.perform (runRequests w requests).result.2).result = (.ok answer, next) →
          ∀ id p, r.placed? answer = some (id, p) →
            ∃ text again, next.store.slot = some text ∧
              (importDiagram text).result = .ok next.diagram.reread ∧
              (Workspace.ofStore next.store config).result = .ok again ∧
              again.diagram = next.diagram.reread ∧
              again.diagram.position? id = some p.reread ∧
              (p.x.IsShort → p.y.IsShort → again.diagram.position? id = some p) := by
  refine ⟨_, result_ofStore _ config, ?_⟩
  intro requests hsizes r answer next hperform id p hplaced
  -- the diagram before the request is one of the session
  have hlast := mem_diagramsDuring_last
    (Workspace.mk (MemoryStore.mk slot).diagram .default (.ofConfig config) (MemoryStore.mk slot))
    requests
  have hfirst : (MemoryStore.mk slot).diagram.Sound fun _ => True :=
    (MemoryStore.storable_diagram _).sound fun _ _ => trivial
  have hsound := sound_of_mem_diagramsDuring (fun _ _ => trivial) hfirst
    (fun r _ => r.kindHolds_true) hsizes _ hlast
  have hsize := hsizes _ hlast
  obtain ⟨hnext, hslot, -⟩ := saved_of_placed hsound hsize hperform hplaced
  obtain ⟨hdiagram, hposition⟩ := taken_up_of_placed hsound hsize hperform hplaced
  refine ⟨_, _, hslot, importDiagram_exportText_reread hnext, result_ofStore next.store config,
    hdiagram, hposition, fun hx hy => ?_⟩
  rw [hposition, Position.reread_eq hx.readsBack hy.readsBack]

/-- Three tenths to the right, and two and a half up. -/
def shortPosition : Position :=
  ⟨.ofRank false 4599075939470750515 (by decide), .ofRank true 4612811918334230528 (by decide)⟩

theorem position_survives_short :
    ∃ w, (Workspace.ofStore (MemoryStore.mk none) .default).result = .ok w ∧
      shortPosition.x.IsShort ∧ shortPosition.y.IsShort ∧
      ∃ next, ((Request.moveNode "node-1" shortPosition).perform
          (runRequests w [.quickAdd]).result.2).result = (.ok .done, next) ∧
        ∃ again, (Workspace.ofStore next.store .default).result = .ok again ∧
          again.diagram.position? "node-1" = some shortPosition := by
  obtain ⟨w, hopen, hsurvives⟩ := position_survives none .default
  have hw := Except.ok.inj (hopen.symm.trans (result_ofStore _ _))
  have hshort : shortPosition.x = .ofRatio false 3 (tenTo 1) ∧
      shortPosition.y = .ofRatio true 25 (tenTo 1) := by decide +kernel
  have hx : shortPosition.x.IsShort := ⟨false, 3, 1, by decide, by decide, hshort.1⟩
  have hy : shortPosition.y.IsShort := ⟨true, 25, 1, by decide, by decide, hshort.2⟩
  have hsizes : ∀ d ∈ diagramsDuring w [.quickAdd], d.nodes.length < UInt64.size - 1 := by
    subst hw
    decide
  have hperform : ((Request.moveNode "node-1" shortPosition).perform
      (runRequests w [.quickAdd]).result.2).result.1 = .ok .done := by
    subst hw
    rfl
  obtain ⟨-, again, -, -, hagain, -, -, hexact⟩ := hsurvives [.quickAdd] hsizes
    (.moveNode "node-1" shortPosition) .done _ (Prod.ext hperform rfl) _ _ rfl
  exact ⟨w, hopen, hx, hy, _, Prod.ext hperform rfl, again, hagain, hexact hx hy⟩

/-- A coordinate of sixteen digits, a little above one. -/
def driftingCoordinate : Binary64 := .ofRank false 4607182418800017411 (by decide)

/-- The next number above it. -/
def driftedCoordinate : Binary64 := .ofRank false 4607182418800017412 (by decide)

theorem position_drifts :
    ∃ w, (Workspace.ofStore (MemoryStore.mk none) .default).result = .ok w ∧
      ∃ next, ((Request.addComponent (.ofText "x") ⟨driftingCoordinate, .zero⟩).perform w).result =
          (.ok (.id "node-1"), next) ∧
        ∃ again, (Workspace.ofStore next.store .default).result = .ok again ∧
          again.diagram.position? "node-1" = some ⟨driftedCoordinate, .zero⟩ ∧
          driftedCoordinate.sameNumber driftingCoordinate = false := by
  have hreread : Position.reread ⟨driftingCoordinate, .zero⟩ = ⟨driftedCoordinate, .zero⟩ := by
    decide +kernel
  refine ⟨_, result_ofStore _ _, _, rfl, _, result_ofStore _ _, ?_, by decide⟩
  rw [← hreread]
  exact (taken_up_of_placed (Diagram.sound_empty _) (by decide)
    (r := .addComponent (.ofText "x") ⟨driftingCoordinate, .zero⟩) rfl rfl).2

end CloudDiagram
