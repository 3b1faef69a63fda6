import CloudDiagram.Workspace.Basic
import CloudDiagram.Proofs.Text.Decimal

/-!
# Ids for new connections

* `hasEdge_iff`: an id is taken by a connection;
* `exists_free_suffix`: of the numbers from two up to one more than there are connections, one makes a
  taken id free;
* **`freeEdgeId_fresh`**: the id for one more connection is not taken.
-/

namespace CloudDiagram.Diagram

open Text

variable {d : Diagram}

theorem hasEdge_iff {id : String} : d.hasEdge id = true ↔ id ∈ d.edges.map (·.id) := by
  simp [hasEdge]

theorem suffix_injective {plain : String} {m n : Nat}
    (h : plain ++ "-" ++ toString m = plain ++ "-" ++ toString n) : m = n := by
  have hnumeral (k : Nat) : (toString k).toList = numeral k := Nat.toList_repr
  have htext := congrArg String.toList h
  simp only [String.toList_append, hnumeral] at htext
  exact numeral_injective (List.append_cancel_left htext)

theorem suffix_ne (plain : String) (n : Nat) : plain ++ "-" ++ toString n ≠ plain := by
  intro h
  have hlength := congrArg String.length h
  simp only [String.length_append] at hlength
  have hhyphen : "-".length = 1 := rfl
  omega

/-- **A free id**: the connections other than the one that takes the plain id are fewer than the
numbers that are tried. -/
theorem exists_free_suffix {plain : String} (hplain : d.hasEdge plain = true) :
    ∃ n < d.edges.length, d.hasEdge (plain ++ "-" ++ toString (n + 2)) = false := by
  apply Classical.byContradiction
  intro hnone
  have htaken : (List.range d.edges.length).map (fun n => plain ++ "-" ++ toString (n + 2)) ⊆
      (d.edges.map (·.id)).erase plain := by
    intro id hid
    obtain ⟨n, hn, rfl⟩ := List.mem_map.1 hid
    refine (List.mem_erase_of_ne (suffix_ne plain (n + 2))).2 (hasEdge_iff.1 ?_)
    cases hedge : d.hasEdge (plain ++ "-" ++ toString (n + 2)) with
    | true => rfl
    | false => exact absurd ⟨n, List.mem_range.1 hn, hedge⟩ hnone
  have hnodup :
      ((List.range d.edges.length).map fun n => plain ++ "-" ++ toString (n + 2)).Nodup := by
    refine List.pairwise_map.2 (List.nodup_range.imp fun {m n} hne h => hne ?_)
    have := suffix_injective h
    omega
  have hle := hnodup.length_le_of_subset htaken
  have hmem := hasEdge_iff.1 hplain
  have hpos := List.length_pos_of_mem hmem
  rw [List.length_erase_of_mem hmem] at hle
  simp only [List.length_map, List.length_range] at hle hpos
  omega

/-- **The id for one more connection is new**, whatever the ids of the others. -/
theorem freeEdgeId_fresh (d : Diagram) (source target : String) :
    d.freeEdgeId source target ∉ d.edges.map (·.id) := by
  rw [← hasEdge_iff, Bool.not_eq_true]
  unfold freeEdgeId
  dsimp only
  cases hplain : d.hasEdge (edgeId source target) with
  | false => exact hplain
  | true =>
    obtain ⟨n, hn, hfree⟩ := exists_free_suffix hplain
    have htried := List.mem_map_of_mem
      (f := fun n => edgeId source target ++ "-" ++ toString (n + 2))
      (List.mem_range.2 (Nat.lt_succ_of_lt hn))
    obtain ⟨id, hid⟩ := Option.isSome_iff_exists.1 <|
      List.find?_isSome (p := fun id => !d.hasEdge id).2 ⟨_, htried, by rw [hfree]; rfl⟩
    have hidfree := List.find?_some hid
    rw [if_neg (by simp), hid, Option.getD_some]
    simpa using hidfree

end CloudDiagram.Diagram
