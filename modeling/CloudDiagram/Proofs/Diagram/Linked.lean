import CloudDiagram.Proofs.Diagram.EdgeId

/-!
# Diagrams whose connections make a proper graph

* `Connection.ends`: what a connection joins, through which handles;
* `Diagram.Anchored`, `Diagram.WellLinked`: no connection to a missing component, and a proper graph;
* `newConnection_eq_ok_iff`: when two components can be joined, and by what;
* `Anchored.join`, `Anchored.removeNode`, `WellLinked.join`, `WellLinked.removeNode`, …: how changes of
  a diagram keep them.
-/

namespace CloudDiagram

/-- **The ends of a connection**, with the handles that it runs through. -/
def Connection.ends (c : Connection) : String × String × Option String × Option String :=
  (c.source, c.target, c.sourceHandle, c.targetHandle)

theorem Connection.sameEndpoints_iff {a b : Connection} :
    a.sameEndpoints b = true ↔ a.ends = b.ends := by
  simp [sameEndpoints, ends, and_assoc]

theorem Connection.touches_iff {c : Connection} {id : String} :
    c.touches id = true ↔ c.source = id ∨ c.target = id := by
  simp [touches]

namespace Diagram

/-- The ids of the components. -/
def nodeIds (d : Diagram) : List String := d.nodes.map (·.id)

/-- **No connection leads to a missing component.** -/
def Anchored (d : Diagram) : Prop :=
  ∀ c ∈ d.edges, c.source ∈ d.nodeIds ∧ c.target ∈ d.nodeIds

/-- **The connections make a proper graph**: they have distinct ids, join components of the diagram,
none joins a component to itself, and no two join the same ones through the same handles. -/
structure WellLinked (d : Diagram) : Prop where
  ids_nodup : (d.edges.map (·.id)).Nodup
  anchored : d.Anchored
  no_loop : ∀ c ∈ d.edges, c.source ≠ c.target
  ends_nodup : (d.edges.map Connection.ends).Nodup

instance (d : Diagram) : Decidable d.Anchored := by unfold Anchored; infer_instance

instance (d : Diagram) : Decidable d.WellLinked :=
  decidable_of_iff ((d.edges.map (·.id)).Nodup ∧ d.Anchored ∧ (∀ c ∈ d.edges, c.source ≠ c.target) ∧
    (d.edges.map Connection.ends).Nodup)
    ⟨fun ⟨h₁, h₂, h₃, h₄⟩ => ⟨h₁, h₂, h₃, h₄⟩, fun ⟨h₁, h₂, h₃, h₄⟩ => ⟨h₁, h₂, h₃, h₄⟩⟩

variable {d : Diagram}

theorem mem_nodeIds {id : String} : id ∈ d.nodeIds ↔ ∃ n ∈ d.nodes, n.id = id := List.mem_map

theorem node?_eq_none_iff {id : String} : d.node? id = none ↔ id ∉ d.nodeIds := by
  simp [node?, mem_nodeIds]

/-! ## Joining two components -/

/-- **Two components can be joined** just when they are two, are both there and are not yet joined
through these handles; the connection has a free id. -/
theorem newConnection_eq_ok_iff {source target : String} {sourceHandle targetHandle : Option String}
    {c : Connection} : d.newConnection source target sourceHandle targetHandle = .ok c ↔
      (source ≠ target ∧ source ∈ d.nodeIds ∧ target ∈ d.nodeIds ∧
        (source, target, sourceHandle, targetHandle) ∉ d.edges.map Connection.ends) ∧
      c = ⟨d.freeEdgeId source target, source, target, sourceHandle, targetHandle, none⟩ := by
  have hparallel : (d.edges.any (·.sameEndpoints
      ⟨d.freeEdgeId source target, source, target, sourceHandle, targetHandle, none⟩)) = true ↔
        (source, target, sourceHandle, targetHandle) ∈ d.edges.map Connection.ends := by
    simp only [List.any_eq_true, Connection.sameEndpoints_iff, List.mem_map]
    rfl
  have hmissing (id : String) : (d.node? id).isNone = true ↔ id ∉ d.nodeIds := by
    rw [Option.isNone_iff_eq_none, node?_eq_none_iff]
  unfold newConnection
  dsimp only
  by_cases hloop : source = target
  · simp [hloop]
  by_cases hsource : source ∈ d.nodeIds
  · by_cases htarget : target ∈ d.nodeIds
    · by_cases hends : (source, target, sourceHandle, targetHandle) ∈ d.edges.map Connection.ends
      · rw [if_neg hloop, if_neg (by simp [hmissing, hsource]), if_neg (by simp [hmissing, htarget]),
          if_pos (hparallel.2 hends)]
        simp [hends]
      · rw [if_neg hloop, if_neg (by simp [hmissing, hsource]), if_neg (by simp [hmissing, htarget]),
          if_neg (by rwa [hparallel]), Except.ok.injEq]
        exact ⟨fun h => ⟨⟨hloop, hsource, htarget, hends⟩, h.symm⟩, fun h => h.2.symm⟩
    · rw [if_neg hloop, if_neg (by simp [hmissing, hsource]), if_pos ((hmissing target).2 htarget)]
      simp [htarget]
  · rw [if_neg hloop, if_pos ((hmissing source).2 hsource)]
    simp [hsource]

/-! ## Connections to missing components -/

namespace Anchored

theorem mono (h : d.Anchored) {nodes : List Node} (hids : d.nodeIds ⊆ nodes.map (·.id)) :
    Anchored { d with nodes } :=
  fun c hc => ⟨hids (h c hc).1, hids (h c hc).2⟩

theorem subset (h : d.Anchored) {edges : List Connection} (hedges : edges ⊆ d.edges) :
    Anchored { d with edges } :=
  fun c hc => h c (hedges hc)

/-- **A component that is removed takes the connections at it along**, also where another one has its
id. -/
theorem removeNode (h : d.Anchored) (id : String) :
    Anchored ⟨d.nodes.eraseP (·.id == id), d.edges.filter fun c => !c.touches id⟩ := by
  have hkept (other : String) (hne : other ≠ id) (hmem : other ∈ d.nodeIds) :
      other ∈ (d.nodes.eraseP (·.id == id)).map (·.id) := by
    obtain ⟨n, hn, rfl⟩ := mem_nodeIds.1 hmem
    exact List.mem_map.2 ⟨n, (List.mem_eraseP_of_neg (by simpa using hne)).2 hn, rfl⟩
  intro c hc
  obtain ⟨hc, htouches⟩ := List.mem_filter.1 hc
  rw [Bool.not_eq_true', ← Bool.not_eq_true, Connection.touches_iff, not_or] at htouches
  exact ⟨hkept _ htouches.1 (h c hc).1, hkept _ htouches.2 (h c hc).2⟩

theorem join (h : d.Anchored) {c : Connection} (hsource : c.source ∈ d.nodeIds)
    (htarget : c.target ∈ d.nodeIds) : Anchored { d with edges := d.edges ++ [c] } := by
  intro e he
  rcases List.mem_append.1 he with he | he
  · exact h e he
  · rw [List.mem_singleton.1 he]
    exact ⟨hsource, htarget⟩

end Anchored

/-! ## Proper graphs -/

namespace WellLinked

theorem withNodes (h : d.WellLinked) {nodes : List Node} (hanchored : Anchored { d with nodes }) :
    WellLinked { d with nodes } :=
  ⟨h.ids_nodup, hanchored, h.no_loop, h.ends_nodup⟩

theorem sublist (h : d.WellLinked) {nodes : List Node} {edges : List Connection}
    (hedges : edges.Sublist d.edges) (hanchored : Anchored ⟨nodes, edges⟩) :
    WellLinked ⟨nodes, edges⟩ where
  ids_nodup := h.ids_nodup.sublist (hedges.map _)
  anchored := hanchored
  no_loop c hc := h.no_loop c (hedges.subset hc)
  ends_nodup := h.ends_nodup.sublist (hedges.map _)

theorem join (h : d.WellLinked) {c : Connection} (hid : c.id ∉ d.edges.map (·.id))
    (hsource : c.source ∈ d.nodeIds) (htarget : c.target ∈ d.nodeIds) (hloop : c.source ≠ c.target)
    (hends : c.ends ∉ d.edges.map Connection.ends) :
    WellLinked { d with edges := d.edges ++ [c] } where
  ids_nodup := by
    rw [List.map_append, List.map_singleton]
    exact (List.perm_append_singleton _ _).nodup_iff.2 (List.nodup_cons.2 ⟨hid, h.ids_nodup⟩)
  anchored := h.anchored.join hsource htarget
  no_loop := by
    intro e he
    rcases List.mem_append.1 he with he | he
    · exact h.no_loop e he
    · rwa [List.mem_singleton.1 he]
  ends_nodup := by
    rw [List.map_append, List.map_singleton]
    exact (List.perm_append_singleton _ _).nodup_iff.2 (List.nodup_cons.2 ⟨hends, h.ends_nodup⟩)

end WellLinked

end Diagram

end CloudDiagram
