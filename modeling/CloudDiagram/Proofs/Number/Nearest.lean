import CloudDiagram.Proofs.Number.Shortest

/-!
# Ranks nearest to a value

* **`nearestRank_eq_iff`**: a rank is nearest to the values in its rounding interval, and to no others;
* `nearestRank_units`, `exists_units_eq`: what is representable is nearest to itself, and every number
  of 53 bits is representable;
* `units_ratio`: a rounding interval is narrow.
-/

namespace CloudDiagram

/-! ## Middles -/

section Middles

variable {middle num den : Nat}

theorem middle_eq_div (middle : Nat) (hden : 0 < den) :
    (middle / 2 ^ 1075 : ℚ) = (middle * den : Nat) / (den * 2 ^ 1075) := by
  rw [Nat.cast_mul, mul_comm (middle : ℚ), mul_div_mul_left _ _ (Nat.cast_ne_zero.2 hden.ne')]

theorem ratio_eq_div (num den : Nat) :
    (num / den / 2 ^ 1074 : ℚ) = (2 * num : Nat) / (den * 2 ^ 1075) := by
  have hpow : (2 : ℚ) ^ 1075 = 2 * 2 ^ 1074 := pow_succ' 2 1074
  rw [hpow, mul_left_comm, Nat.cast_mul, Nat.cast_ofNat, mul_div_mul_left _ _ two_ne_zero, div_div]

theorem middle_lt_iff (hden : 0 < den) :
    (middle / 2 ^ 1075 : ℚ) < num / den / 2 ^ 1074 ↔ middle * den < 2 * num := by
  have hden' : (0 : ℚ) < den := Nat.cast_pos.2 hden
  rw [middle_eq_div middle hden, ratio_eq_div, div_lt_div_iff_of_pos_right (by positivity),
    Nat.cast_lt]

theorem lt_middle_iff (hden : 0 < den) :
    (num / den / 2 ^ 1074 : ℚ) < middle / 2 ^ 1075 ↔ 2 * num < middle * den := by
  have hden' : (0 : ℚ) < den := Nat.cast_pos.2 hden
  rw [middle_eq_div middle hden, ratio_eq_div, div_lt_div_iff_of_pos_right (by positivity),
    Nat.cast_lt]

theorem middle_le_iff (hden : 0 < den) :
    (middle / 2 ^ 1075 : ℚ) ≤ num / den / 2 ^ 1074 ↔ middle * den ≤ 2 * num := by
  rw [← not_lt, lt_middle_iff hden, Nat.not_lt]

theorem le_middle_iff (hden : 0 < den) :
    (num / den / 2 ^ 1074 : ℚ) ≤ middle / 2 ^ 1075 ↔ 2 * num ≤ middle * den := by
  rw [← not_lt, middle_lt_iff hden, Nat.not_lt]

end Middles

variable {rank num den : Nat}

/-- **A positive finite rank is nearest to the values in its rounding interval.** -/
theorem nearestRank_eq_iff (hden : 0 < den) (hpos : 0 < rank) (hlt : rank < infinityRank) :
    nearestRank num den = rank ↔ (RoundingInterval.ofRank rank).Holds (num / den / 2 ^ 1074) := by
  have hreach := le_nearestRank_iff num hden hpos hlt.le
  have hpast := le_nearestRank_iff num hden (Nat.succ_pos rank) hlt
  rw [Nat.succ_eq_add_one, Nat.add_sub_cancel] at hpast
  have heq : nearestRank num den = rank ↔
      rank ≤ nearestRank num den ∧ ¬rank + 1 ≤ nearestRank num den := by omega
  have hclosed : (RoundingInterval.ofRank rank).closed = decide (rank % 2 = 0) := rfl
  rw [heq, hreach, hpast, RoundingInterval.Holds, RoundingInterval.low_ofRank,
    RoundingInterval.high_ofRank, hclosed, middle_lt_iff hden, middle_le_iff hden,
    lt_middle_iff hden, le_middle_iff hden]
  generalize (units (rank - 1) + units rank) * den = low
  generalize (units rank + units (rank + 1)) * den = high
  by_cases heven : rank % 2 = 0
  · rw [decide_eq_true heven, if_pos rfl]
    omega
  · rw [decide_eq_false heven, if_neg (by decide)]
    omega

theorem nearestRank_units (hden : 0 < den) (h : rank ≤ infinityRank) :
    nearestRank (units rank * den) den = rank := by
  refine Nat.le_antisymm (Nat.not_lt.1 fun hlt => ?_) ?_
  · have hreach := (le_nearestRank_iff (units rank * den) hden (Nat.succ_pos rank)
      ((Nat.succ_le_of_lt hlt).trans (Binary64.nearestRank_le _ _))).1 hlt
    have hstep : units rank < units (rank + 1) := units_strictMono (Nat.lt_succ_self rank)
    have hmul := Nat.mul_lt_mul_of_pos_right hstep hden
    rw [Nat.succ_eq_add_one, Nat.add_sub_cancel, Nat.add_mul] at hreach
    omega
  · obtain rfl | hpos := Nat.eq_zero_or_pos rank
    · exact Nat.zero_le _
    · refine (le_nearestRank_iff _ hden hpos h).2 (.inl ?_)
      have hstep : units (rank - 1) < units rank := units_strictMono (Nat.sub_lt hpos Nat.one_pos)
      have hmul := Nat.mul_lt_mul_of_pos_right hstep hden
      rw [Nat.add_mul]
      omega

theorem exists_units_eq {m shift : Nat} (hm : m ≤ twoTo 53) (hlow : 52 ≤ shift)
    (hhigh : shift ≤ 2000) : ∃ rank < infinityRank, units rank = m * twoTo shift := by
  have h52 := twoTo_52
  have hfinite {s m : Nat} (hs : s ≤ 2000) (hm : m ≤ twoTo 53) :
      s * twoTo 52 + m < infinityRank := by
    unfold infinityRank
    rw [twoTo_53, h52] at *
    omega
  obtain hlt | rfl := Nat.lt_or_eq_of_le hm
  · obtain rfl | hpos := Nat.eq_zero_or_pos m
    · exact ⟨0, by decide, (Nat.zero_mul _).symm⟩
    · -- doubled until all its bits are in use
      have hlog := (Nat.log2_lt hpos.ne').2 hlt
      obtain ⟨t, ht⟩ : ∃ t, t + Nat.log2 m = 52 := ⟨52 - Nat.log2 m, by omega⟩
      have hleast : twoTo 52 ≤ m * twoTo t := by
        rw [← ht, twoTo_add, Nat.mul_comm]
        exact Nat.mul_le_mul_right _ (Nat.log2_self_le hpos.ne')
      have hmost : m * twoTo t ≤ twoTo 53 := by
        have hexponent : 53 = Nat.log2 m + 1 + t := by omega
        rw [hexponent, twoTo_add]
        exact Nat.mul_le_mul_right _ Nat.lt_log2_self.le
      refine ⟨(shift - t) * twoTo 52 + m * twoTo t, hfinite (by omega) hmost, ?_⟩
      have hexponent : t + (shift - t) = shift := by omega
      rw [units_add (.inl hleast) hmost, Nat.mul_assoc, ← twoTo_add, hexponent]
  · exact ⟨_, hfinite hhigh le_rfl, units_add (.inl (by decide)) le_rfl⟩

/-- **A rounding interval is narrow**: its upper end is at most half as large again as its lower
end. -/
theorem units_ratio (h : 3 ≤ rank) :
    2 * (units rank + units (rank + 1)) ≤ 3 * (units (rank - 1) + units rank) := by
  obtain ⟨before, rfl⟩ : ∃ before, rank = before + 1 := ⟨rank - 1, by omega⟩
  have hspacing : twoTo (doublings before) ≤ twoTo (doublings (before + 1)) :=
    twoTo_mono (RoundingInterval.doublings_le_succ before)
  have hlarge : 3 * twoTo (doublings (before + 1)) ≤ units (before + 1) := by
    obtain ⟨s, m, heq, hm, hlt⟩ := exists_eq_add (before + 1)
    have hthree : 3 ≤ m := by
      obtain hm | rfl := hm
      · exact Nat.le_trans (by decide) hm
      · omega
    rw [heq, doublings_add hm hlt, units_add hm hlt.le]
    exact Nat.mul_le_mul_right _ hthree
  have hstep := units_succ before
  rw [Nat.add_sub_cancel, units_succ (before + 1)]
  omega

end CloudDiagram
