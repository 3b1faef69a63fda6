import CloudDiagram.Proofs.Number.Nearest
import Mathlib.Tactic.Linarith

/-!
# Decimals of few digits

* `isSome_candidate?`, `shortest_of_holds`: if a decimal lies in a rounding interval, the shortest one
  is at least as coarse;
* **`shortest_of_short`**: the shortest decimal of the number nearest to a decimal of at most fifteen
  digits has at most sixteen, and not more places after the point.
-/

namespace CloudDiagram

namespace RoundingInterval

variable {i : RoundingInterval} {rank : Nat}

theorem Holds.between {a b c : ℚ} (ha : i.Holds a) (hb : i.Holds b) (hac : a ≤ c) (hcb : c ≤ b) :
    i.Holds c := by
  unfold Holds at *
  split
  · rename_i hclosed
    rw [if_pos hclosed] at ha hb
    exact ⟨ha.1.trans hac, hcb.trans hb.2⟩
  · rename_i hopen
    rw [if_neg hopen] at ha hb
    exact ⟨ha.1.trans_le hac, hcb.trans_lt hb.2⟩

theorem value_ofRank (rank : Nat) : ((ofRank rank).value : ℚ) * 2 ^ (ofRank rank).exponent =
    units rank / 1 / 2 ^ 1074 := by
  have hpow : (2 : ℚ) ^ 1075 = 2 * 2 ^ 1074 := pow_succ' 2 1074
  have hdvd : twoTo (doublings rank - 1) ∣ 2 * units rank :=
    (twoTo_dvd_units (Nat.sub_le _ 1)).mul_left 2
  rw [div_one]
  refine (cast_div_shared hdvd).trans ?_
  rw [hpow, Nat.cast_mul, Nat.cast_ofNat]
  exact mul_div_mul_left _ _ (by norm_num)

theorem holds_value (hpos : 0 < rank) (hlt : rank < infinityRank) :
    (ofRank rank).Holds ((ofRank rank).value * 2 ^ (ofRank rank).exponent) := by
  have hunits := nearestRank_units Nat.one_pos hlt.le
  rw [nearestRank_eq_iff Nat.one_pos hpos hlt, Nat.mul_one, Nat.cast_one] at hunits
  rwa [value_ofRank]

/-- **A multiple of a power of ten is found** in an interval if there is one. -/
theorem isSome_candidate? (tie : Tie) {exponent : ℤ} {k : Nat}
    (hvalue : i.Holds (i.value * 2 ^ i.exponent)) (hk : i.Holds (k * 10 ^ exponent)) :
    (i.candidate? tie exponent).isSome = true := by
  have hscale : (0 : ℚ) < 10 ^ exponent := by positivity
  have hpos : 0 < tenTo exponent.toNat * twoTo (-i.exponent).toNat :=
    Nat.mul_pos (tenTo_pos _) (twoTo_pos _)
  -- one of the two multiples around the magnitude lies between it and the given one
  have hbelow (below : Nat) (h : below = i.value * (tenTo (-exponent).toNat *
      twoTo i.exponent.toNat) / (tenTo exponent.toNat * twoTo (-i.exponent).toNat)) :
      i.holds (below * (tenTo exponent.toNat * twoTo (-i.exponent).toNat))
        (tenTo (-exponent).toNat * twoTo i.exponent.toNat) = true ∨
      i.holds ((below + 1) * (tenTo exponent.toNat * twoTo (-i.exponent).toNat))
        (tenTo (-exponent).toNat * twoTo i.exponent.toNat) = true := by
    obtain hle | hlt := le_or_gt k below
    · left
      refine holds_iff.2 (hk.between hvalue ?_ ?_)
      · exact mul_le_mul_of_nonneg_right (Nat.cast_le.2 hle) hscale.le
      · rw [mul_tenTo_le_iff, h]
        exact Nat.div_mul_le_self _ _
    · right
      refine holds_iff.2 (hvalue.between hk ?_ ?_)
      · rw [mul_twoTo_le_iff, h]
        exact (Nat.lt_mul_of_div_lt (Nat.lt_succ_self _) hpos).le
      · exact mul_le_mul_of_nonneg_right (Nat.cast_le.2 hlt) hscale.le
  unfold candidate?
  dsimp only
  generalize hfloor : i.value * (tenTo (-exponent).toNat * twoTo i.exponent.toNat) /
    (tenTo exponent.toNat * twoTo (-i.exponent).toNat) = below
  obtain hfits | hfits := hbelow below hfloor.symm
  · rw [hfits, Bool.true_and]
    repeat' split
    all_goals first | rfl | contradiction
  · rw [hfits, Bool.and_true]
    repeat' split
    all_goals first | rfl | contradiction

end RoundingInterval

/-! ## Coarse decimals -/

theorem Decimal.exponent_le_strip (d : Decimal) (fuel : Nat) : d.exponent ≤ (d.strip fuel).exponent := by
  induction fuel generalizing d with
  | zero => exact le_rfl
  | succ fuel ih =>
    unfold strip
    split
    · exact (Int.le_add_one le_rfl).trans (ih _)
    · exact le_rfl

theorem exists_findSome?_range {α : Type} {f : Nat → Option α} {n size : Nat} (hn : n < size)
    (h : (f n).isSome = true) :
    ∃ k a, (List.range size).findSome? f = some a ∧ f k = some a ∧ k ≤ n := by
  obtain ⟨a, ha⟩ : ∃ a, (List.range size).findSome? f = some a := by
    rw [← Option.isSome_iff_exists, List.findSome?_isSome_iff]
    exact ⟨n, List.mem_range.2 hn, h⟩
  obtain ⟨before, k, after, hsplit, hk, hnone⟩ := List.findSome?_eq_some_iff.1 ha
  refine ⟨k, a, ha, hk, Nat.not_lt.1 fun hlt => ?_⟩
  -- an earlier place would have been found first
  have hmem : n ∈ before := by
    have hsorted := List.pairwise_lt_range (n := size)
    have hin : n ∈ List.range size := List.mem_range.2 hn
    rw [hsplit] at hsorted hin
    obtain hin | hin := List.mem_append.1 hin
    · exact hin
    · obtain ⟨-, hsorted, -⟩ := List.pairwise_append.1 hsorted
      obtain rfl | hin := List.mem_cons.1 hin
      · exact absurd hlt (Nat.lt_irrefl _)
      · exact absurd ((List.pairwise_cons.1 hsorted).1 n hin) (Nat.lt_asymm hlt)
  rw [hnone n hmem] at h
  exact Bool.noConfusion h

/-- **A decimal in the rounding interval** makes the shortest one at least as coarse. -/
theorem shortest_of_holds (tie : Tie) {rank k n : Nat} (hpos : 0 < rank) (hlt : rank < infinityRank)
    (hn : n < 20) (hk : (RoundingInterval.ofRank rank).Holds
      (k * 10 ^ ((RoundingInterval.ofRank rank).topExponent - n))) :
    (RoundingInterval.ofRank rank).Holds (shortest tie rank).value ∧
      (RoundingInterval.ofRank rank).topExponent - n ≤ (shortest tie rank).exponent := by
  have hsome := RoundingInterval.isSome_candidate? tie
    (RoundingInterval.holds_value hpos hlt) hk
  unfold shortest
  dsimp only
  generalize RoundingInterval.ofRank rank = i at *
  obtain ⟨j, d, hfound, hd, hle⟩ := exists_findSome?_range
    (f := fun n : Nat => (i.candidate? tie (i.topExponent - n)).map fun d =>
      Decimal.mk d (i.topExponent - n)) hn (by rwa [Option.isSome_map])
  obtain ⟨digits, hcandidate, rfl⟩ := Option.map_eq_some_iff.1 hd
  rw [hfound, Option.getD_some, Decimal.value_strip]
  refine ⟨RoundingInterval.holds_of_candidate? hcandidate, le_trans ?_ (Decimal.exponent_le_strip _ _)⟩
  dsimp only
  omega

/-! ## Decimals of at most fifteen digits -/

theorem RoundingInterval.Holds.close {rank : Nat} (hrank : 3 ≤ rank) {x y : ℚ}
    (hx : (ofRank rank).Holds x) (hy : (ofRank rank).Holds y) : 2 * x ≤ 3 * y := by
  have hratio := units_ratio hrank
  have hcast : (2 * (units rank + units (rank + 1) : Nat) : ℚ) ≤
      3 * (units (rank - 1) + units rank : Nat) := by exact_mod_cast hratio
  calc 2 * x ≤ 2 * ((units rank + units (rank + 1) : Nat) / 2 ^ 1075) :=
        mul_le_mul_of_nonneg_left hx.le.2 (by norm_num)
    _ ≤ 3 * ((units (rank - 1) + units rank : Nat) / 2 ^ 1075) := by
        rw [← mul_div_assoc, ← mul_div_assoc]
        exact div_le_div_of_nonneg_right hcast (by positivity)
    _ ≤ 3 * y := mul_le_mul_of_nonneg_left hy.le.1 (by norm_num)

/-- The power of ten at which the search for the shortest decimal starts, from the power of two of the
leading bit. -/
def startOf (bit : ℤ) : ℤ := (bit + 1) * 30103 / 100000 + 1

/-- The search starts above the magnitude, and close to it. -/
abbrev StartsClose (bit : ℤ) : Prop :=
  1 * (tenTo (-(startOf bit + 1)).toNat * twoTo (bit + 2).toNat) ≤
      1 * (tenTo (startOf bit + 1).toNat * twoTo (-(bit + 2)).toNat) ∧
    1 * (tenTo (startOf bit - 5).toNat * twoTo (-(bit - 1)).toNat) ≤
      1 * (tenTo (-(startOf bit - 5)).toNat * twoTo (bit - 1).toNat)

/-- It does where decimals of at most fifteen digits and twenty-two places lie. -/
theorem startsClose : ∀ n : Nat, n < 125 → StartsClose (n - 74) := by
  decide +kernel

theorem startOf_bounds {bit : ℤ} (hlow : -74 ≤ bit) (hhigh : bit ≤ 50) :
    (2 : ℚ) ^ (bit + 2) ≤ 10 ^ (startOf bit + 1) ∧ (10 : ℚ) ^ (startOf bit - 5) ≤ 2 ^ (bit - 1) := by
  obtain ⟨n, hn⟩ : ∃ n : Nat, bit = n - 74 := ⟨(bit + 74).toNat, by omega⟩
  have hclose := startsClose n (by omega)
  rw [← hn, StartsClose, ← mul_twoTo_le_iff, ← mul_tenTo_le_iff, Nat.cast_one, one_mul, one_mul,
    one_mul, one_mul] at hclose
  exact hclose

theorem exists_leading_bit {rank : Nat} (hpos : 0 < rank) :
    ∃ bit, (RoundingInterval.ofRank rank).topExponent = startOf bit ∧
      (2 : ℚ) ^ bit ≤ (RoundingInterval.ofRank rank).value * 2 ^ (RoundingInterval.ofRank rank).exponent ∧
      (RoundingInterval.ofRank rank).value * 2 ^ (RoundingInterval.ofRank rank).exponent <
        (2 : ℚ) ^ (bit + 1) := by
  have hvalue := RoundingInterval.value_ofRank rank
  have hunits : (0 : ℚ) < units rank := Nat.cast_pos.2 (units_pos hpos)
  have hne : (RoundingInterval.ofRank rank).value ≠ 0 := by
    intro hzero
    rw [hzero, Nat.cast_zero, zero_mul] at hvalue
    have hright : (0 : ℚ) < units rank / 1 / 2 ^ 1074 := by positivity
    exact hright.ne hvalue
  generalize RoundingInterval.ofRank rank = i at *
  have htwo : (2 : ℚ) ≠ 0 := by norm_num
  have hscale : (0 : ℚ) < 2 ^ i.exponent := by positivity
  refine ⟨Nat.log2 i.value + i.exponent, rfl, ?_, ?_⟩
  · rw [zpow_add₀ htwo, zpow_natCast]
    exact mul_le_mul_of_nonneg_right (by exact_mod_cast Nat.log2_self_le hne) hscale.le
  · rw [add_right_comm, zpow_add₀ htwo]
    refine mul_lt_mul_of_pos_right ?_ hscale
    have hlt : i.value < 2 ^ (Nat.log2 i.value + 1) := Nat.lt_log2_self
    exact_mod_cast hlt

section Places

variable {bit : ℤ} {x magnitude : ℚ} {j : Nat} (habove : 2 * magnitude ≤ 3 * x)
  (hbelow : 2 * x ≤ 3 * magnitude) (hlow : 2 ^ bit ≤ magnitude) (hhigh : magnitude < 2 ^ (bit + 1))
  (hunit : (10 : ℚ) ^ (-(j : ℤ)) ≤ x) (hless : x < 10 ^ 15 * 10 ^ (-(j : ℤ)))

include habove hbelow hlow hhigh hunit hless in
/-- Where the leading bit of a magnitude close to a decimal of at most fifteen digits stands. -/
theorem leading_bit_bounds (hj : j ≤ 22) : -74 ≤ bit ∧ bit ≤ 50 := by
  constructor
  · have hplaces : (10 : ℚ) ^ (-22 : ℤ) ≤ 10 ^ (-(j : ℤ)) :=
      zpow_le_zpow_right₀ (by norm_num) (by omega)
    have hsmall : (2 : ℚ) ^ (-74 : ℤ) * 3 < 2 * 10 ^ (-22 : ℤ) := by norm_num
    have hpow : (2 : ℚ) ^ (-74 : ℤ) < 2 ^ (bit + 1) := by linarith
    have := (zpow_lt_zpow_iff_right₀ (by norm_num)).1 hpow
    omega
  · have hone : (10 : ℚ) ^ (-(j : ℤ)) ≤ 1 := zpow_le_one_of_nonpos₀ (by norm_num) (by omega)
    have hsum : (10 : ℚ) ^ 15 * 10 ^ (-(j : ℤ)) ≤ 10 ^ 15 :=
      mul_le_of_le_one_right (by positivity) hone
    have hlarge : (3 : ℚ) * 10 ^ 15 ≤ 2 * 2 ^ (51 : ℤ) := by norm_num
    have hpow : (2 : ℚ) ^ bit < 2 ^ (51 : ℤ) := by linarith
    have := (zpow_lt_zpow_iff_right₀ (by norm_num)).1 hpow
    omega

include habove hbelow hlow hhigh hunit hless in
theorem place_bounds (hj : j ≤ 22) :
    -(j : ℤ) ≤ startOf bit ∧ startOf bit - 20 < -(j : ℤ) := by
  obtain ⟨hbit, hbit'⟩ := leading_bit_bounds habove hbelow hlow hhigh hunit hless hj
  obtain ⟨hstart, hclose⟩ := startOf_bounds hbit hbit'
  have htwo : (2 : ℚ) ≠ 0 := by norm_num
  have hten : (10 : ℚ) ≠ 0 := by norm_num
  constructor
  · have hpow : (10 : ℚ) ^ (-(j : ℤ)) < 10 ^ (startOf bit + 1) := by
      rw [zpow_add₀ htwo] at hhigh hstart
      linarith
    have := (zpow_lt_zpow_iff_right₀ (by norm_num)).1 hpow
    omega
  · refine not_le.1 fun hle => ?_
    have hplace : (10 : ℚ) ^ 15 * 10 ^ (-(j : ℤ)) ≤ 10 ^ (startOf bit - 5) := by
      have hexponent : startOf bit - 5 = (15 : ℕ) + (startOf bit - 20) := by
        push_cast
        ring
      rw [hexponent, zpow_add₀ hten, zpow_natCast]
      exact mul_le_mul_of_nonneg_left (zpow_le_zpow_right₀ (by norm_num) hle) (by positivity)
    have hhalf : (2 : ℚ) ^ bit = 2 ^ (bit - 1) * 2 := by
      rw [← zpow_add_one₀ htwo, sub_add_cancel]
    have hpos : (0 : ℚ) < 2 ^ (bit - 1) := by positivity
    linarith

end Places

/-- **The search reaches a decimal of at most fifteen digits** and twenty-two places. -/
theorem exists_place {rank k j : Nat} (hrank : 3 ≤ rank) (hlt : rank < infinityRank) (hk : 0 < k)
    (hk15 : k < tenTo 15) (hj : j ≤ 22)
    (hholds : (RoundingInterval.ofRank rank).Holds (k * 10 ^ (-(j : ℤ)))) :
    ∃ n < 20, (RoundingInterval.ofRank rank).topExponent - (n : ℕ) = -(j : ℤ) := by
  have hpos : 0 < rank := by omega
  obtain ⟨bit, htop, hlow, hhigh⟩ := exists_leading_bit hpos
  have hself := RoundingInterval.holds_value hpos hlt
  have hscale : (0 : ℚ) < 10 ^ (-(j : ℤ)) := by positivity
  have hunit : (10 : ℚ) ^ (-(j : ℤ)) ≤ k * 10 ^ (-(j : ℤ)) :=
    le_mul_of_one_le_left hscale.le (by exact_mod_cast hk)
  have hless : (k : ℚ) * 10 ^ (-(j : ℤ)) < 10 ^ 15 * 10 ^ (-(j : ℤ)) :=
    mul_lt_mul_of_pos_right (by exact_mod_cast hk15) hscale
  obtain ⟨hfirst, hlast⟩ := place_bounds (hself.close hrank hholds) (hholds.close hrank hself) hlow
    hhigh hunit hless hj
  rw [htop]
  exact ⟨(startOf bit + j).toNat, by omega, by omega⟩

/-- **The shortest decimal of the number nearest to a decimal** of at most fifteen digits and
twenty-two places is close to it and has no more places. -/
theorem shortest_of_short (tie : Tie) {rank k j : Nat} (hrank : 3 ≤ rank) (hlt : rank < infinityRank)
    (hk : 0 < k) (hk15 : k < tenTo 15) (hj : j ≤ 22)
    (hholds : (RoundingInterval.ofRank rank).Holds (k * 10 ^ (-(j : ℤ)))) :
    (RoundingInterval.ofRank rank).Holds (shortest tie rank).value ∧
      -(j : ℤ) ≤ (shortest tie rank).exponent ∧
      2 * (shortest tie rank).value ≤ 3 * (k * 10 ^ (-(j : ℤ))) := by
  obtain ⟨n, hn, hplace⟩ := exists_place hrank hlt hk hk15 hj hholds
  rw [← hplace] at hholds ⊢
  obtain ⟨hshortest, hexponent⟩ := shortest_of_holds tie (by omega) hlt hn hholds
  exact ⟨hshortest, hexponent, hshortest.close hrank hholds⟩

end CloudDiagram
