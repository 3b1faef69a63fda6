import CloudDiagram.Diagram.Basic
import CloudDiagram.Proofs.Text.Decimal

/-!
# Ids for new components

* `nodeNumber?_numbered`: the number of a numbered id;
* `exists_gap`: below the largest number one is free, among as many as are taken;
* **`nextNodeId_fresh`**: the id for one more component is not taken while there are fewer than
  `2^64 - 1` components.
-/

namespace CloudDiagram

open Text

theorem word?_toString {n : Nat} (h : n < UInt64.size) :
    word? (toString n) = some (UInt64.ofNat n) := by
  rw [word?_eq_some_iff, UInt64.toNat_ofNat_of_lt' h]
  have hlist : (toString n).toList = numeral n := Nat.toList_repr
  exact ⟨numeral n, .inl hlist, numeral_ne_nil n, fun c hc => isDigit_of_mem_numeral hc,
    digitsValue_numeral n⟩

namespace Diagram

theorem nodeNumber?_numbered {n : Nat} (h : n < UInt64.size) :
    nodeNumber? ("node-" ++ toString n) = some n := by
  have hlist : ("node-" ++ toString n).toList = "node-".toList ++ (toString n).toList :=
    String.toList_append
  have hdrop : ("node-".toList ++ (toString n).toList).drop 5 = (toString n).toList := rfl
  rw [nodeNumber?, hlist, if_pos (List.isPrefixOf_iff_prefix.2 (List.prefix_append _ _)), hdrop,
    String.ofList_toList, word?_toString h, Option.map_some, UInt64.toNat_ofNat_of_lt' h]

variable {d : Diagram}

theorem mem_takenNumbers {n : Nat} (h : n < UInt64.size)
    (hid : "node-" ++ toString n ∈ d.nodes.map (·.id)) : n ∈ d.takenNumbers := by
  obtain ⟨node, hnode, hid⟩ := List.mem_map.1 hid
  exact List.mem_filterMap.2 ⟨node, hnode, hid ▸ nodeNumber?_numbered h⟩

theorem lt_of_mem_takenNumbers {n : Nat} (h : n ∈ d.takenNumbers) : n < UInt64.size := by
  obtain ⟨node, -, hnumber⟩ := List.mem_filterMap.1 h
  unfold nodeNumber? at hnumber
  split at hnumber
  · obtain ⟨w, -, rfl⟩ := Option.map_eq_some_iff.1 hnumber
    exact w.toNat_lt_size
  · cases hnumber

theorem le_foldl_max (taken : List Nat) (start : Nat) :
    start ≤ taken.foldl max start ∧ ∀ n ∈ taken, n ≤ taken.foldl max start := by
  induction taken generalizing start with
  | nil => simp
  | cons m rest ih =>
    obtain ⟨hstart, hrest⟩ := ih (max start m)
    rw [List.foldl_cons, List.forall_mem_cons]
    exact ⟨by omega, by omega, hrest⟩

theorem foldl_max_mem (taken : List Nat) (start : Nat) :
    taken.foldl max start = start ∨ taken.foldl max start ∈ taken := by
  induction taken generalizing start with
  | nil => simp
  | cons m rest ih =>
    rw [List.foldl_cons, List.mem_cons]
    rcases ih (max start m) with heq | hmem
    · rw [heq]
      omega
    · exact .inr (.inr hmem)

/-- **There is a gap below the largest number**: where that is taken, fewer numbers than there are
below it cannot fill them all. -/
theorem exists_gap {taken : List Nat} (hlargest : UInt64.size - 1 ∈ taken)
    (hlength : taken.length < UInt64.size - 1) : ∃ n < taken.length, n + 1 ∉ taken := by
  apply Classical.byContradiction
  intro hall
  have hsubset : (List.range taken.length).map (· + 1) ⊆ taken.erase (UInt64.size - 1) := by
    intro m hm
    obtain ⟨n, hn, rfl⟩ := List.mem_map.1 hm
    have hlt := List.mem_range.1 hn
    refine (List.mem_erase_of_ne (by omega)).2 (Classical.byContradiction fun hfree => ?_)
    exact hall ⟨n, hlt, hfree⟩
  have hnodup : ((List.range taken.length).map (· + 1)).Nodup :=
    List.pairwise_map.2 (List.nodup_range.imp fun hne heq => hne (Nat.succ.inj heq))
  have hle := hnodup.length_le_of_subset hsubset
  have hpos := List.length_pos_of_mem hlargest
  rw [List.length_map, List.length_range, List.length_erase_of_mem hlargest] at hle
  omega

theorem exists_lowestFree? {taken : List Nat} (hlargest : UInt64.size - 1 ∈ taken)
    (hlength : taken.length < UInt64.size - 1) : ∃ n, lowestFree? taken = some n := by
  obtain ⟨n, hlt, hfree⟩ := exists_gap hlargest hlength
  refine Option.isSome_iff_exists.1 (List.find?_isSome.2 ⟨n + 1, ?_, ?_⟩)
  · exact List.mem_map.2 ⟨n, List.mem_range.2 (by omega), rfl⟩
  · simp only [Bool.and_eq_true, decide_eq_true_eq, Bool.not_eq_true', List.contains_eq_mem,
      decide_eq_false_iff_not]
    exact ⟨by omega, hfree⟩

/-- **The id for one more component is new**, for fewer components than `2^64 - 1`. -/
theorem nextNodeId_fresh (h : d.nodes.length < UInt64.size - 1) :
    d.nextNodeId ∉ d.nodes.map (·.id) := by
  intro hmem
  unfold nextNodeId at hmem
  dsimp only at hmem
  split at hmem
  · rename_i hfits
    have htaken := (le_foldl_max d.takenNumbers 0).2 _ (mem_takenNumbers hfits hmem)
    omega
  · rename_i hfull
    have hlargest : UInt64.size - 1 ∈ d.takenNumbers := by
      rcases foldl_max_mem d.takenNumbers 0 with heq | hhighest
      · rw [heq] at hfull
        exact absurd (by decide) hfull
      · have hlt := lt_of_mem_takenNumbers hhighest
        have heq : d.takenNumbers.foldl max 0 = UInt64.size - 1 := by omega
        rwa [heq] at hhighest
    have hlength := List.length_filterMap_le (fun n : Node => nodeNumber? n.id) d.nodes
    obtain ⟨n, hn⟩ := exists_lowestFree? hlargest (Nat.lt_of_le_of_lt hlength h)
    rw [hn] at hmem
    have hfree := List.find?_some hn
    simp only [Bool.and_eq_true, decide_eq_true_eq, Bool.not_eq_true', List.contains_eq_mem,
      decide_eq_false_iff_not] at hfree
    exact hfree.2 (mem_takenNumbers (by omega) hmem)

end Diagram

end CloudDiagram
