import CloudDiagram.Proofs.Diagram.NextId
import Mathlib.Order.Bounds.Basic

/-!
# The numbers of components

The id for one more component is numbered after the ids that are there. Different ids may have one
number, such as `node-7` and `node-+007`.

* `Diagram.Takes`: an id of a component has a number;
* `nodeNumber?_eq_some_iff`, `mem_takenNumbers_iff`: the number that is read from an id, and the
  numbers that are taken;
* `isLeast_lowestFree?`: the lowest gap between the numbers;
* **`nextNodeId_exact`**: the id for one more component, which none has.
-/

namespace CloudDiagram

open Text

namespace Diagram

/-- **A number of 64 bits is taken**: some id is `node-` and a text that spells it. -/
def Takes (d : Diagram) (n : Nat) : Prop :=
  n < UInt64.size ∧
    ∃ id ∈ d.nodes.map (·.id), ∃ text, id.toList = "node-".toList ++ text ∧ Spells text n

variable {d : Diagram} {n : Nat}

/-! ## Numbers that are taken -/

theorem nodeNumber?_eq_some_iff {id : String} : nodeNumber? id = some n ↔
    n < UInt64.size ∧ ∃ text, id.toList = "node-".toList ++ text ∧ Spells text n := by
  unfold nodeNumber?
  split
  · rename_i hstart
    obtain ⟨text, htext⟩ := List.isPrefixOf_iff_prefix.1 hstart
    have hdrop : id.toList.drop 5 = text := by
      rw [← htext]
      rfl
    rw [hdrop, Option.map_eq_some_iff]
    constructor
    · rintro ⟨w, hw, rfl⟩
      rw [word?_eq_some_iff, String.toList_ofList] at hw
      exact ⟨w.toNat_lt_size, text, htext.symm, hw⟩
    · rintro ⟨hlt, other, hother, hspells⟩
      cases List.append_cancel_left (hother.symm.trans htext.symm)
      refine ⟨UInt64.ofNat n, ?_, UInt64.toNat_ofNat_of_lt' hlt⟩
      rwa [word?_eq_some_iff, String.toList_ofList, UInt64.toNat_ofNat_of_lt' hlt]
  · rename_i hstart
    constructor
    · intro h
      cases h
    · rintro ⟨-, text, htext, -⟩
      exact absurd (List.isPrefixOf_iff_prefix.2 ⟨text, htext.symm⟩) hstart

theorem mem_takenNumbers_iff : n ∈ d.takenNumbers ↔ d.Takes n := by
  simp only [takenNumbers, List.mem_filterMap, nodeNumber?_eq_some_iff, Takes, List.mem_map]
  constructor
  · rintro ⟨node, hnode, hlt, hspelled⟩
    exact ⟨hlt, node.id, ⟨node, hnode, rfl⟩, hspelled⟩
  · rintro ⟨hlt, -, ⟨node, hnode, rfl⟩, hspelled⟩
    exact ⟨node, hnode, hlt, hspelled⟩

theorem foldl_max_takenNumbers :
    (∀ n, ¬ d.Takes n) ∧ d.takenNumbers.foldl max 0 = 0 ∨
      IsGreatest {n | d.Takes n} (d.takenNumbers.foldl max 0) := by
  have hle := (le_foldl_max d.takenNumbers 0).2
  by_cases hnone : d.takenNumbers = []
  · left
    refine ⟨fun n hn => ?_, by rw [hnone]; rfl⟩
    rw [← mem_takenNumbers_iff, hnone] at hn
    cases hn
  · right
    obtain ⟨m, hm⟩ := List.exists_mem_of_ne_nil _ hnone
    refine ⟨mem_takenNumbers_iff.1 ?_, fun n hn => hle n (mem_takenNumbers_iff.2 hn)⟩
    rcases foldl_max_mem d.takenNumbers 0 with heq | hmem
    · -- then every number that is taken is zero
      have hzero : m = 0 := by
        have := hle m hm
        omega
      rwa [heq, ← hzero]
    · exact hmem

/-! ## The lowest gap -/

theorem isLeast_lowestFree? {taken : List Nat} (h : lowestFree? taken = some n) :
    IsLeast {n | 1 ≤ n ∧ n ∉ taken} n := by
  rw [lowestFree?, List.find?_map, Option.map_eq_some_iff] at h
  obtain ⟨k, hk, rfl⟩ := h
  obtain ⟨hfree, -, hbelow⟩ := List.find?_range_eq_some.1 hk
  simp only [Function.comp_apply, Bool.and_eq_true, decide_eq_true_eq, Bool.not_eq_true',
    Bool.and_eq_false_iff, List.contains_eq_mem, decide_eq_false_iff_not, Bool.not_eq_false',
    decide_eq_true_eq] at hfree hbelow
  refine ⟨⟨by omega, hfree.2⟩, fun m hm => Classical.byContradiction fun hlt => ?_⟩
  obtain ⟨hpos, hnot⟩ := hm
  have hearlier := hbelow (m - 1) (by omega)
  rw [Nat.sub_add_cancel hpos] at hearlier
  rcases hearlier with hlarge | htaken
  · omega
  · exact hnot htaken

theorem nextNodeId_of_fits (h : d.takenNumbers.foldl max 0 + 1 < UInt64.size) :
    d.nextNodeId = "node-" ++ toString (d.takenNumbers.foldl max 0 + 1) := if_pos h

theorem nextNodeId_of_full (h : d.takenNumbers.foldl max 0 = UInt64.size - 1)
    (hfree : lowestFree? d.takenNumbers = some n) : d.nextNodeId = "node-" ++ toString n := by
  unfold nextNodeId
  dsimp only
  rw [if_neg (by rw [h]; decide), hfree]

/-- **The id for one more component** is new while there are fewer components than `2^64 - 1`. It has the
number after the highest one that is taken, or number one where none is; where the highest number is the
last one of 64 bits, it has the least positive number that is free, which is at most the number of
components. -/
theorem nextNodeId_exact (h : d.nodes.length < UInt64.size - 1) :
    d.nextNodeId ∉ d.nodes.map (·.id) ∧
    ((∀ n, ¬ d.Takes n) → d.nextNodeId = "node-1") ∧
    (∀ n, IsGreatest {n | d.Takes n} n → n < UInt64.size - 1 →
      d.nextNodeId = "node-" ++ toString (n + 1)) ∧
    (IsGreatest {n | d.Takes n} (UInt64.size - 1) → ∃ n ≤ d.nodes.length,
      IsLeast {n | 1 ≤ n ∧ ¬ d.Takes n} n ∧ d.nextNodeId = "node-" ++ toString n) := by
  have hhighest (n : Nat) (hn : IsGreatest {n | d.Takes n} n) : d.takenNumbers.foldl max 0 = n := by
    obtain ⟨hnone, -⟩ | hgreatest := d.foldl_max_takenNumbers
    · exact absurd hn.1 (hnone n)
    · exact hgreatest.unique hn
  refine ⟨nextNodeId_fresh h, ?_, ?_, ?_⟩
  · intro hnone
    obtain ⟨-, hzero⟩ | hgreatest := d.foldl_max_takenNumbers
    · rw [nextNodeId_of_fits (by rw [hzero]; decide), hzero]
      rfl
    · exact absurd hgreatest.1 (hnone _)
  · intro n hn hlt
    rw [nextNodeId_of_fits (by rw [hhighest n hn]; omega), hhighest n hn]
  · intro hlast
    have hlength : d.takenNumbers.length ≤ d.nodes.length := List.length_filterMap_le _ _
    have hmem := mem_takenNumbers_iff.2 hlast.1
    obtain ⟨k, hk, hkfree⟩ := exists_gap hmem (Nat.lt_of_le_of_lt hlength h)
    obtain ⟨n, hn⟩ := exists_lowestFree? hmem (Nat.lt_of_le_of_lt hlength h)
    have hleast := isLeast_lowestFree? hn
    have hle : n ≤ k + 1 := hleast.2 ⟨Nat.le_add_left 1 k, hkfree⟩
    simp only [mem_takenNumbers_iff] at hleast
    exact ⟨n, by omega, hleast, nextNodeId_of_full (hhighest _ hlast) hn⟩

/-- Ids of the same number, the last number of 64 bits and an id that has none. -/
def spelledVariously : Diagram where
  nodes := ["node-+1", "node-18446744073709551615", "node-003", "node-3", "node-2x"].map fun id =>
    Node.ofKind id .server id
  edges := []

theorem nextNodeId_exact_spelledVariously :
    spelledVariously.nodes.length < UInt64.size - 1 ∧
      IsGreatest {n | spelledVariously.Takes n} (UInt64.size - 1) ∧
      IsLeast {n | 1 ≤ n ∧ ¬ spelledVariously.Takes n} 2 ∧
      spelledVariously.nextNodeId = "node-2" ∧
      spelledVariously.nextNodeId ∉ spelledVariously.nodes.map (·.id) := by
  have hsize : spelledVariously.nodes.length < UInt64.size - 1 := by decide
  have hlast : IsGreatest {n | spelledVariously.Takes n} (UInt64.size - 1) :=
    ⟨mem_takenNumbers_iff.1 (by decide +kernel), fun n hn => Nat.le_sub_one_of_lt hn.1⟩
  obtain ⟨hfresh, -, -, hfull⟩ := nextNodeId_exact hsize
  obtain ⟨n, -, hleast, hid⟩ := hfull hlast
  have htwo : n = 2 := by
    refine Nat.le_antisymm (hleast.2 ⟨by decide, ?_⟩) (Nat.lt_of_le_of_ne hleast.1.1 ?_)
    · rw [← mem_takenNumbers_iff]
      decide +kernel
    · rintro rfl
      exact hleast.1.2 (mem_takenNumbers_iff.1 (by decide +kernel))
  subst htwo
  exact ⟨hsize, hlast, hleast, hid, hfresh⟩

end Diagram

end CloudDiagram
