import CloudDiagram.Proofs.Workspace.Linked
import Mathlib.Order.Bounds.Basic

/-!
# Connecting and disconnecting

* `Diagram.Joinable`, `Diagram.joined`: two components that can be connected, and the diagram with a
  connection more;
* `isLeast_freeEdgeId`: the number that makes a taken id free;
* `Accepts`: a store takes a diagram;
* `result_connect_eq_ok_iff`, `result_disconnect_eq_ok_iff`: when the operations succeed, and what they
  leave;
* **`connect_exact`**: components are connected just when they can be, and disconnecting them gives the
  workspace back.
-/

namespace CloudDiagram

namespace Diagram

/-- **Two components can be connected**: they are two, they are there, and no connection joins them
through these handles. -/
def Joinable (d : Diagram) (source target : String) (sourceHandle targetHandle : Option String) :
    Prop :=
  source ≠ target ∧ source ∈ d.nodeIds ∧ target ∈ d.nodeIds ∧
    (source, target, sourceHandle, targetHandle) ∉ d.edges.map Connection.ends

/-- The diagram with a connection more. -/
def joined (d : Diagram) (c : Connection) : Diagram := { d with edges := d.edges ++ [c] }

variable {d : Diagram}

/-! ## The id -/

theorem freeEdgeId_of_free {source target : String}
    (h : edgeId source target ∉ d.edges.map (·.id)) :
    d.freeEdgeId source target = edgeId source target := by
  rw [← hasEdge_iff, Bool.not_eq_true] at h
  exact if_pos (by rw [h]; rfl)

/-- **The number that makes a taken id free** is the least one from two on; it is at most one more than
there are connections. -/
theorem isLeast_freeEdgeId {source target : String}
    (h : edgeId source target ∈ d.edges.map (·.id)) :
    ∃ n ≤ d.edges.length + 1,
      IsLeast {n | 2 ≤ n ∧ edgeId source target ++ "-" ++ toString n ∉ d.edges.map (·.id)} n ∧
        d.freeEdgeId source target = edgeId source target ++ "-" ++ toString n := by
  have htaken := hasEdge_iff.2 h
  obtain ⟨k, hk, hfree⟩ := exists_free_suffix htaken
  -- the search ends, and where it ends nothing before is free
  obtain ⟨n, hn⟩ : ∃ n, (List.range (d.edges.length + 1)).find?
      (fun n => !d.hasEdge (edgeId source target ++ "-" ++ toString (n + 2))) = some n :=
    Option.isSome_iff_exists.1 <| List.find?_isSome.2
      ⟨k, List.mem_range.2 (Nat.lt_succ_of_lt hk), by rw [hfree]; rfl⟩
  obtain ⟨hfound, -, hbelow⟩ := List.find?_range_eq_some.1 hn
  simp only [Bool.not_eq_true', Bool.not_not] at hfound hbelow
  have hleast (m : Nat) (hm : d.hasEdge (edgeId source target ++ "-" ++ toString (m + 2)) = false) :
      n ≤ m := by
    refine Nat.le_of_not_lt fun hlt => ?_
    rw [hbelow m hlt] at hm
    cases hm
  refine ⟨n + 2, ?_, ⟨⟨Nat.le_add_left 2 n, ?_⟩, ?_⟩, ?_⟩
  · have := hleast k hfree
    omega
  · rw [← hasEdge_iff, hfound]
    exact Bool.false_ne_true
  · rintro m ⟨htwo, hm⟩
    obtain ⟨m, rfl⟩ := Nat.exists_eq_add_of_le' htwo
    rw [← hasEdge_iff, Bool.not_eq_true] at hm
    exact Nat.add_le_add_right (hleast m hm) 2
  · unfold freeEdgeId
    dsimp only
    rw [htaken, if_neg (by decide), List.find?_map, Function.comp_def, hn]
    rfl

end Diagram

/-! ## Saving -/

variable {σ α : Type} [DiagramStore σ]

/-- **The store takes the diagram.** -/
def Accepts (store : σ) (d : Diagram) : Prop := (DiagramStore.save store d).1 = .ok ()

/-- The workspace after a diagram has been saved. -/
def Workspace.saved (w : Workspace σ) (d : Diagram) : Workspace σ :=
  { w with diagram := d, store := (DiagramStore.save w.store d).2 }

variable {w next : Workspace σ}

theorem result_save_eq_ok_iff {d : Diagram} {a b : α} :
    (Workspace.save d a w).result = (.ok b, next) ↔ Accepts w.store d ∧ a = b ∧ w.saved d = next := by
  unfold Workspace.save Accepts Workspace.saved
  obtain ⟨_ | _, store⟩ := DiagramStore.save w.store d <;> simp

theorem result_update_eq_ok_iff {edit : Edit α} {b : α} :
    (Workspace.update edit w).result = (.ok b, next) ↔
      ∃ d, (edit w.diagram).run.result = .ok (b, d) ∧ Accepts w.store d ∧ w.saved d = next := by
  rw [Workspace.update, Noted.result_bind]
  cases (edit w.diagram).run.result with
  | error e => simp [Workspace.refuse]
  | ok edited =>
    obtain ⟨a, d⟩ := edited
    refine Iff.trans result_save_eq_ok_iff ?_
    constructor
    · rintro ⟨haccepts, rfl, hsaved⟩
      exact ⟨d, rfl, haccepts, hsaved⟩
    · rintro ⟨d, hedited, haccepts, hsaved⟩
      cases hedited
      exact ⟨haccepts, rfl, hsaved⟩

theorem result_connect_eq_ok_iff {source target : String} {sourceHandle targetHandle : Option String}
    {id : String} :
    (Workspace.connect source target sourceHandle targetHandle w).result = (.ok id, next) ↔
      ∃ c, w.diagram.newConnection source target sourceHandle targetHandle = .ok c ∧ c.id = id ∧
        Accepts w.store (w.diagram.joined c) ∧ w.saved (w.diagram.joined c) = next := by
  unfold Workspace.connect
  cases w.diagram.newConnection source target sourceHandle targetHandle with
  | error e => simp [Workspace.refuse]
  | ok c =>
    refine Iff.trans result_update_eq_ok_iff ?_
    simp only [Diagram.result_addEdge, Except.ok.injEq, Prod.mk.injEq]
    constructor
    · rintro ⟨d, ⟨hid, rfl⟩, hsaved⟩
      exact ⟨c, rfl, hid, hsaved⟩
    · rintro ⟨_, rfl, hid, hsaved⟩
      exact ⟨w.diagram.joined c, ⟨hid, rfl⟩, hsaved⟩

/-- **The connection that was just made** is the one that its id leads to, and it is taken away alone. -/
theorem result_removeEdge_joined {d : Diagram} {c : Connection}
    (hfresh : c.id ∉ d.edges.map (·.id)) :
    (Diagram.removeEdge c.id (d.joined c)).run.result = .ok (c, d) := by
  have hother (e : Connection) (he : e ∈ d.edges) : ¬ (e.id == c.id) = true := fun hid =>
    hfresh (List.mem_map.2 ⟨e, he, eq_of_beq hid⟩)
  have hfind : (d.edges ++ [c]).find? (·.id == c.id) = some c := by
    rw [List.find?_append, List.find?_eq_none.2 hother]
    simp
  have herase : (d.edges ++ [c]).eraseP (·.id == c.id) = d.edges := by
    rw [List.eraseP_append_right _ hother]
    simp
  rw [Diagram.result_removeEdge, Diagram.joined]
  dsimp only
  rw [hfind, herase]

/-- **Components are connected just when they can be** and the store takes the diagram. The connection
comes after the others with an id that none of them has: the plain one, or else the plain one with the
least number from two on that makes it free, which is at most one more than there are connections and so
fits into 64 bits. Nothing else changes, and disconnecting by this id at once takes away this connection
and gives the workspace back but for what the store does with it, whatever the ids of the others. -/
theorem connect_exact (w : Workspace σ) (source target : String)
    (sourceHandle targetHandle : Option String)
    (hsize : w.diagram.edges.length < UInt64.size - 2) :
    let taken := w.diagram.edges.map (·.id)
    let plain := edgeId source target
    let c : Connection :=
      ⟨w.diagram.freeEdgeId source target, source, target, sourceHandle, targetHandle, none⟩
    ((∃ id next, (Workspace.connect source target sourceHandle targetHandle w).result =
        (.ok id, next)) ↔
      w.diagram.Joinable source target sourceHandle targetHandle ∧
        Accepts w.store (w.diagram.joined c)) ∧
    (c.id ∉ taken ∧ (plain ∉ taken → c.id = plain) ∧
      (plain ∈ taken → ∃ n ≤ w.diagram.edges.length + 1, n < UInt64.size ∧
        IsLeast {n | 2 ≤ n ∧ plain ++ "-" ++ toString n ∉ taken} n ∧
        c.id = plain ++ "-" ++ toString n)) ∧
    ∀ id next, (Workspace.connect source target sourceHandle targetHandle w).result =
        (.ok id, next) →
      id = c.id ∧ next = w.saved (w.diagram.joined c) ∧
      (Accepts next.store w.diagram →
        (Workspace.disconnect id next).result =
          (.ok c, { w with store := (DiagramStore.save next.store w.diagram).2 })) := by
  intro taken plain c
  have hconnect (id : String) (next : Workspace σ) :
      (Workspace.connect source target sourceHandle targetHandle w).result = (.ok id, next) ↔
        w.diagram.Joinable source target sourceHandle targetHandle ∧ c.id = id ∧
          Accepts w.store (w.diagram.joined c) ∧ w.saved (w.diagram.joined c) = next := by
    simp only [result_connect_eq_ok_iff, Diagram.newConnection_eq_ok_iff]
    constructor
    · rintro ⟨-, ⟨hjoinable, rfl⟩, hsaved⟩
      exact ⟨hjoinable, hsaved⟩
    · rintro ⟨hjoinable, hsaved⟩
      exact ⟨c, ⟨hjoinable, rfl⟩, hsaved⟩
  have hfresh : c.id ∉ taken := w.diagram.freeEdgeId_fresh source target
  refine ⟨?_, ⟨hfresh, Diagram.freeEdgeId_of_free, ?_⟩, ?_⟩
  · constructor
    · rintro ⟨id, next, hresult⟩
      obtain ⟨hjoinable, -, haccepts, -⟩ := (hconnect id next).1 hresult
      exact ⟨hjoinable, haccepts⟩
    · rintro ⟨hjoinable, haccepts⟩
      exact ⟨_, _, (hconnect _ _).2 ⟨hjoinable, rfl, haccepts, rfl⟩⟩
  · intro hplain
    obtain ⟨n, hle, hleast, hid⟩ := Diagram.isLeast_freeEdgeId hplain
    exact ⟨n, hle, by omega, hleast, hid⟩
  · intro id next hresult
    obtain ⟨-, rfl, -, rfl⟩ := (hconnect id next).1 hresult
    refine ⟨rfl, rfl, fun haccepts => ?_⟩
    exact result_update_eq_ok_iff.2 ⟨_, result_removeEdge_joined hfresh, haccepts, rfl⟩

/-- Connections with one id, and one with the id that another connection would get. -/
def Diagram.repeated : Diagram where
  nodes := ["a-b", "c", "a", "b-c"].map fun id => Node.ofKind id .server id
  edges := [⟨"edge-a-b-c", "a-b", "c", none, none, none⟩, ⟨"edge-a-b-c-2", "c", "a", none, none, none⟩,
    ⟨"edge-a-b-c", "c", "a-b", none, none, some "step"⟩]

theorem connect_exact_repeated :
    let w := { Workspace.blank (MemoryStore.mk none) with diagram := .repeated }
    let c : Connection := ⟨"edge-a-b-c-3", "a", "b-c", some "right", none, none⟩
    w.diagram.edges.length < UInt64.size - 2 ∧
      w.diagram.Joinable "a" "b-c" (some "right") none ∧ Accepts w.store (w.diagram.joined c) ∧
      ∃ next, (Workspace.connect "a" "b-c" (some "right") none w).result = (.ok c.id, next) ∧
        next.diagram = w.diagram.joined c ∧ Accepts next.store w.diagram ∧
        ∃ back, (Workspace.disconnect c.id next).result = (.ok c, back) ∧
          back.diagram = w.diagram := by
  intro w c
  have hsize : w.diagram.edges.length < UInt64.size - 2 := by decide
  have hid : w.diagram.freeEdgeId "a" "b-c" = "edge-a-b-c-3" := by decide +kernel
  have hjoinable : w.diagram.Joinable "a" "b-c" (some "right") none := by
    unfold Diagram.Joinable
    decide +kernel
  obtain ⟨hiff, -, heffect⟩ := connect_exact w "a" "b-c" (some "right") none hsize
  rw [hid] at hiff heffect
  obtain ⟨id, next, hresult⟩ := hiff.2 ⟨hjoinable, rfl⟩
  obtain ⟨rfl, rfl, hback⟩ := heffect id next hresult
  exact ⟨hsize, hjoinable, rfl, _, hresult, rfl, rfl, _, hback rfl, rfl⟩

end CloudDiagram
