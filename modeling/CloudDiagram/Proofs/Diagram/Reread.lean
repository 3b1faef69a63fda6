import CloudDiagram.Proofs.Diagram.Storable
import CloudDiagram.Proofs.Json.Reread
import CloudDiagram.Proofs.Number.Bounds

/-!
# What a save leaves

The text of a number need not be read as that number, nor the name of a kind as that kind. A saved
diagram comes back with the numbers and the kinds that they are read as.

* `Binary64.reread`, `Position.reread`, `Properties.reread`, `Diagram.reread`: these numbers and kinds;
* `Diagram.storable_reread`: a diagram with them survives a save, whatever kinds it had;
* **`Diagram.reread_eq`**: it is the same diagram if its kinds are canonical and every number is read
  from its own text.
-/

namespace CloudDiagram

open Json

/-- **The number that the text of a number is read as.** What is not finite has no text. -/
def Binary64.reread (x : Binary64) : Binary64 :=
  if h : x.isFinite = true then (Number.float x h).reread.toBinary64 else x

theorem Binary64.isFinite_reread {x : Binary64} (h : x.isFinite = true) :
    x.reread.isFinite = true := by
  rw [reread, dif_pos h]
  exact Number.isFinite_toBinary64 _

theorem Number.reread_float {x : Binary64} (h : x.isFinite = true) :
    (Number.float x h).reread = .float x.reread (Binary64.isFinite_reread h) := by
  obtain ⟨y, hy, hread⟩ := Number.exists_reread_float h
  have hx : x.reread = y := by
    rw [Binary64.reread, dif_pos h, hread, Number.toBinary64]
  simp only [hread, hx]

theorem Binary64.ReadsBack.reread_eq {x : Binary64} (h : x.ReadsBack) : x.reread = x := by
  unfold reread
  split
  · rename_i hx
    rw [Number.readsBack_iff_reread.1 (h hx), Number.toBinary64]
  · rfl

/-- The position with the coordinates that its coordinates are read as. -/
def Position.reread (p : Position) : Position := ⟨p.x.reread, p.y.reread⟩

/-- The value with the number that its number is read as. -/
def PropertyValue.reread : PropertyValue → PropertyValue
  | .number n => .number n.reread
  | v => v

/-- The properties with the numbers that their numbers are read as. -/
def Properties.reread (p : Properties) : Properties :=
  ⟨p.entries.map fun e => (e.1, e.2.reread), List.pairwise_map.2 p.ascending⟩

/-- The component with the numbers that its numbers are read as, and the kind of its name. -/
def Node.reread (n : Node) : Node :=
  { n with
    kind := .ofText n.kind.text
    position := n.position.reread
    properties := Properties.reread n.properties }

/-- **The diagram with the numbers and kinds that its own are read as.** -/
def Diagram.reread (d : Diagram) : Diagram := { d with nodes := d.nodes.map Node.reread }

theorem Position.isFinite_reread {p : Position} (h : p.isFinite = true) :
    p.reread.isFinite = true := by
  obtain ⟨hx, hy⟩ := Bool.and_eq_true_iff.1 h
  exact Bool.and_eq_true_iff.2 ⟨Binary64.isFinite_reread hx, Binary64.isFinite_reread hy⟩

theorem Diagram.storable_reread {d : Diagram} {holds : Kind → Prop} (h : d.Sound holds) :
    d.reread.Storable where
  ids_nodup := by
    have hids : d.reread.nodes.map (·.id) = d.nodes.map (·.id) := List.map_map
    rw [hids]
    exact h.ids_nodup
  positions_finite := List.forall_mem_map.2 fun n hn =>
    Position.isFinite_reread (h.positions_finite n hn)
  kinds_canonical := List.forall_mem_map.2 fun n _ => Kind.canonical_ofText n.kind.text

/-! ## What is read back -/

theorem Position.reread_eq {p : Position} (hx : p.x.ReadsBack) (hy : p.y.ReadsBack) :
    p.reread = p := by
  rw [reread, hx.reread_eq, hy.reread_eq]

theorem PropertyValue.reread_eq {v : PropertyValue} (h : ∀ x ∈ v.float?, x.ReadsBack) :
    v.reread = v := by
  cases v with
  | number n => exact congrArg _ (Number.readsBack_iff_reread.1 (readsBack h))
  | _ => rfl

theorem Properties.reread_eq {p : Properties}
    (h : ∀ x ∈ p.entries.filterMap fun e => e.2.float?, x.ReadsBack) : Properties.reread p = p := by
  have hentries : p.entries.map (fun e => (e.1, e.2.reread)) = p.entries := by
    calc p.entries.map (fun e => (e.1, e.2.reread))
        = p.entries.map id := List.map_congr_left fun e he => Prod.ext rfl <|
          PropertyValue.reread_eq fun x hx => h x (List.mem_filterMap.2 ⟨e, he, hx⟩)
      _ = p.entries := List.map_id _
  simp only [reread, hentries]

theorem Node.reread_eq {n : Node} (hkind : n.kind.Canonical) (h : ∀ x ∈ n.floats, x.ReadsBack) :
    n.reread = n := by
  simp only [floats, List.forall_mem_cons] at h
  rw [reread, Kind.ofText_text_iff.2 hkind, Position.reread_eq h.1 h.2.1, Properties.reread_eq h.2.2]

/-- **A diagram that survives a save is left as it is** if its numbers are read from their own text. -/
theorem Diagram.reread_eq {d : Diagram} (h : d.Storable) (hfloats : d.FloatsReadBack) :
    d.reread = d := by
  have hnodes : d.nodes.map Node.reread = d.nodes := by
    calc d.nodes.map Node.reread
        = d.nodes.map id := List.map_congr_left fun n hn =>
          Node.reread_eq (h.kinds_canonical n hn) fun x hx =>
            hfloats x (List.mem_flatMap.2 ⟨n, hn, hx⟩)
      _ = d.nodes := List.map_id _
  rw [reread, hnodes]

end CloudDiagram
