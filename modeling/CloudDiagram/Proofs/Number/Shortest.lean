import CloudDiagram.Number.Shortest
import CloudDiagram.Text.Decimal
import CloudDiagram.Proofs.Number.Rounding
import Mathlib.Algebra.Order.Field.Power
import Mathlib.Data.Rat.Cast.Order
import Mathlib.Tactic.FieldSimp
import Mathlib.Tactic.Positivity

/-!
# The value of the shortest decimal

* `Decimal.value`: the value of a decimal numeral, which `Decimal.strip` keeps;
* `RoundingInterval.Holds`: the rational numbers in a rounding interval;
* **`shortest_cases`**: the shortest decimal of a rank lies in its rounding interval;
* `natAbs_top_shortest_le`: its leading digit is not far from the point.
-/

namespace CloudDiagram

/-! ## Powers -/

theorem twoTo_mono {j k : Nat} (h : j ≤ k) : twoTo j ≤ twoTo k := Nat.pow_le_pow_right (by decide) h

theorem tenTo_mono {j k : Nat} (h : j ≤ k) : tenTo j ≤ tenTo k := Nat.pow_le_pow_right (by decide) h

theorem tenTo_pos (k : Nat) : 0 < tenTo k := Nat.pow_pos (by decide)

theorem cast_twoTo (k : Nat) : (twoTo k : ℚ) = 2 ^ k := Nat.cast_pow 2 k

theorem cast_tenTo (k : Nat) : (tenTo k : ℚ) = 10 ^ k := Nat.cast_pow 10 k

theorem zpow_eq_div (b : ℚ) (e : ℤ) : b ^ e = b ^ e.toNat / b ^ (-e).toNat := by
  obtain ⟨n, rfl | rfl⟩ := e.eq_nat_or_neg
  · simp
  · simp

/-- **Multiples of powers of two bases** are compared as natural numbers. -/
theorem mul_zpow_le_iff {p q : Nat} (hp : 0 < p) (hq : 0 < q) (a b : Nat) (e f : ℤ) :
    (a * (p : ℚ) ^ e) ≤ b * (q : ℚ) ^ f ↔
      a * (q ^ (-f).toNat * p ^ e.toNat) ≤ b * (q ^ f.toNat * p ^ (-e).toNat) := by
  have hp' : (0 : ℚ) < p ^ (-e).toNat := pow_pos (Nat.cast_pos.2 hp) _
  have hq' : (0 : ℚ) < q ^ (-f).toNat := pow_pos (Nat.cast_pos.2 hq) _
  rw [zpow_eq_div (p : ℚ), zpow_eq_div (q : ℚ), ← mul_div_assoc, ← mul_div_assoc,
    div_le_div_iff₀ hp' hq', mul_assoc, mul_assoc, mul_comm ((p : ℚ) ^ e.toNat)]
  exact_mod_cast Iff.rfl

theorem mul_twoTo_le_iff (a b : Nat) (e f : ℤ) :
    (a * 2 ^ e : ℚ) ≤ b * 10 ^ f ↔
      a * (tenTo (-f).toNat * twoTo e.toNat) ≤ b * (tenTo f.toNat * twoTo (-e).toNat) :=
  mul_zpow_le_iff (p := 2) (q := 10) (by decide) (by decide) a b e f

theorem mul_tenTo_le_iff (a b : Nat) (e f : ℤ) :
    (b * 10 ^ f : ℚ) ≤ a * 2 ^ e ↔
      b * (tenTo f.toNat * twoTo (-e).toNat) ≤ a * (tenTo (-f).toNat * twoTo e.toNat) := by
  rw [Nat.mul_comm (tenTo _), Nat.mul_comm (tenTo _)]
  exact mul_zpow_le_iff (p := 10) (q := 2) (by decide) (by decide) b a f e

/-! ## Decimals -/

/-- **The value of a decimal numeral.** -/
def Decimal.value (d : Decimal) : ℚ := d.digits * 10 ^ d.exponent

theorem Decimal.value_strip (d : Decimal) (fuel : Nat) : (d.strip fuel).value = d.value := by
  induction fuel generalizing d with
  | zero => rfl
  | succ fuel ih =>
    unfold strip
    split
    · rename_i hzero
      simp only [Bool.and_eq_true, decide_eq_true_eq] at hzero
      have hdigits : d.digits = 10 * (d.digits / 10) := by omega
      rw [ih, value, value, zpow_add_one₀ (by norm_num)]
      conv_rhs => rw [hdigits]
      push_cast
      ring
    · rfl

namespace RoundingInterval

/-- **The rational numbers in the interval.** -/
def Holds (i : RoundingInterval) (x : ℚ) : Prop :=
  if i.closed then i.low * 2 ^ i.exponent ≤ x ∧ x ≤ i.high * 2 ^ i.exponent
  else i.low * 2 ^ i.exponent < x ∧ x < i.high * 2 ^ i.exponent

variable {i : RoundingInterval} {exponent : ℤ} {k : Nat}

theorem holds_iff : i.holds (k * (tenTo exponent.toNat * twoTo (-i.exponent).toNat))
    (tenTo (-exponent).toNat * twoTo i.exponent.toNat) = true ↔ i.Holds (k * 10 ^ exponent) := by
  unfold holds Holds
  split
  · rw [Bool.and_eq_true, decide_eq_true_eq, decide_eq_true_eq, mul_twoTo_le_iff, mul_tenTo_le_iff]
  · rw [Bool.and_eq_true, decide_eq_true_eq, decide_eq_true_eq]
    exact (and_congr (lt_iff_lt_of_le_iff_le (mul_tenTo_le_iff ..))
      (lt_iff_lt_of_le_iff_le (mul_twoTo_le_iff ..))).symm

theorem holds_of_candidate? {tie : Tie} (h : i.candidate? tie exponent = some k) :
    i.Holds (k * 10 ^ exponent) := by
  rw [← holds_iff]
  unfold candidate? at h
  dsimp only at h
  generalize i.value * (tenTo (-exponent).toNat * twoTo i.exponent.toNat) /
    (tenTo exponent.toNat * twoTo (-i.exponent).toNat) = below at h
  split at h
  · rename_i hboth
    obtain ⟨hbelow, habove⟩ := Bool.and_eq_true_iff.1 hboth
    repeat' split at h
    all_goals cases h
    all_goals first | exact hbelow | exact habove
  · split at h
    · rename_i hbelow
      cases h
      exact hbelow
    · split at h
      · rename_i habove
        cases h
        exact habove
      · cases h

/-! ## The interval of a rank -/

theorem twoTo_dvd_units {t rank : Nat} (h : t ≤ doublings rank) : twoTo t ∣ units rank :=
  (Nat.pow_dvd_pow 2 h).mul_left _

theorem cast_div_shared {rank n : Nat} (h : twoTo (doublings rank - 1) ∣ n) :
    ((n / twoTo (doublings rank - 1) : Nat) : ℚ) * 2 ^ (ofRank rank).exponent = n / 2 ^ 1075 := by
  obtain ⟨c, rfl⟩ := h
  have hexponent : (ofRank rank).exponent = ((doublings rank - 1 : Nat) : ℤ) - (1075 : Nat) := rfl
  rw [hexponent, zpow_sub₀ (by norm_num), zpow_natCast, zpow_natCast,
    Nat.mul_div_cancel_left _ (twoTo_pos _), Nat.cast_mul, cast_twoTo, ← mul_div_assoc, mul_comm]

theorem doublings_pred_le (rank : Nat) : doublings rank - 1 ≤ doublings (rank - 1) := by
  have h52 := twoTo_52
  unfold doublings
  rw [h52]
  omega

theorem doublings_le_succ (rank : Nat) : doublings rank ≤ doublings (rank + 1) := by
  have h52 := twoTo_52
  unfold doublings
  rw [h52]
  omega

theorem low_ofRank (rank : Nat) : ((ofRank rank).low : ℚ) * 2 ^ (ofRank rank).exponent =
    (units (rank - 1) + units rank : Nat) / 2 ^ 1075 :=
  cast_div_shared <| (twoTo_dvd_units (doublings_pred_le rank)).add (twoTo_dvd_units (Nat.sub_le _ 1))

theorem high_ofRank (rank : Nat) : ((ofRank rank).high : ℚ) * 2 ^ (ofRank rank).exponent =
    (units rank + units (rank + 1) : Nat) / 2 ^ 1075 :=
  cast_div_shared <| (twoTo_dvd_units (Nat.sub_le _ 1)).add
    (twoTo_dvd_units ((Nat.sub_le _ 1).trans (doublings_le_succ rank)))

end RoundingInterval

/-- **The shortest decimal of a rank lies in its rounding interval**, if one is found. -/
theorem shortest_cases (tie : Tie) (rank : Nat) :
    shortest tie rank = ⟨0, 0⟩ ∨ (RoundingInterval.ofRank rank).Holds (shortest tie rank).value := by
  unfold shortest
  dsimp only
  rw [Decimal.value_strip]
  generalize hfound : (List.range 20).findSome? _ = found
  cases found with
  | none => exact .inl rfl
  | some d =>
    obtain ⟨n, -, hd⟩ := List.exists_of_findSome?_eq_some hfound
    obtain ⟨k, hcandidate, rfl⟩ := Option.map_eq_some_iff.1 hd
    exact .inr (RoundingInterval.holds_of_candidate? hcandidate)

theorem units_pos {rank : Nat} (h : 0 < rank) : 0 < units rank :=
  (Nat.zero_le _).trans_lt (units_strictMono h)

theorem RoundingInterval.Holds.le {rank : Nat} {x : ℚ} (h : (ofRank rank).Holds x) :
    (units (rank - 1) + units rank : Nat) / 2 ^ 1075 ≤ x ∧
      x ≤ (units rank + units (rank + 1) : Nat) / 2 ^ 1075 := by
  rw [← low_ofRank, ← high_ofRank]
  unfold Holds at h
  split at h
  · exact h
  · exact ⟨h.1.le, h.2.le⟩

theorem RoundingInterval.Holds.half_le {rank : Nat} (hrank : 0 < rank) {x : ℚ}
    (h : (ofRank rank).Holds x) : 1 / 2 ^ 1075 ≤ x := by
  have hpos : 1 ≤ units (rank - 1) + units rank :=
    (units_pos hrank).trans_le (Nat.le_add_left _ _)
  refine le_trans ?_ h.le.1
  rw [div_le_div_iff_of_pos_right (by positivity)]
  exact_mod_cast hpos

theorem RoundingInterval.Holds.digits_pos {rank : Nat} (hrank : 0 < rank) {d : Decimal}
    (h : (ofRank rank).Holds d.value) : 0 < d.digits := by
  refine Nat.pos_of_ne_zero fun hzero => ?_
  have hvalue : d.value = 0 := by
    rw [Decimal.value, hzero, Nat.cast_zero, zero_mul]
  have hhalf : (0 : ℚ) < 1 / 2 ^ 1075 := by positivity
  exact absurd (hvalue ▸ h.half_le hrank) (not_le.2 hhalf)

theorem shortest_eq_zero {tie : Tie} {rank : Nat} (hpos : 0 < rank)
    (h : (shortest tie rank).digits = 0) : shortest tie rank = ⟨0, 0⟩ :=
  (shortest_cases tie rank).resolve_right fun hholds => (hholds.digits_pos hpos).ne' h

theorem value_shortest_le (tie : Tie) (rank : Nat) :
    (shortest tie rank).value ≤ (units rank + units (rank + 1) : Nat) / 2 ^ 1075 := by
  obtain hzero | hholds := shortest_cases tie rank
  · rw [hzero, Decimal.value, Nat.cast_zero, zero_mul]
    positivity
  · exact hholds.le.2

/-! ## The leading digit -/

theorem Decimal.leading_bounds {d : Decimal} (h : d.digits ≠ 0) :
    (10 : ℚ) ^ (d.exponent + (Text.numeral d.digits).length - 1) ≤ d.value ∧
      d.value < 10 ^ (d.exponent + (Text.numeral d.digits).length) := by
  obtain ⟨k, hk⟩ : ∃ k, (Text.numeral d.digits).length = k + 1 :=
    ⟨_, (Nat.sub_add_cancel Nat.length_toDigits_pos).symm⟩
  have hlow : 10 ^ k ≤ d.digits := by
    obtain rfl | hpos := Nat.eq_zero_or_pos k
    · exact Nat.pos_of_ne_zero h
    · refine Nat.not_lt.1 fun hlt => ?_
      have hle := (Nat.length_toDigits_le_iff (by decide) hpos).2 hlt
      exact absurd (hk.symm.trans_le hle) (by omega)
  have hhigh : d.digits < 10 ^ (k + 1) :=
    (Nat.length_toDigits_le_iff (by decide) (Nat.succ_pos k)).1 hk.le
  have hscale : (0 : ℚ) < 10 ^ d.exponent := by positivity
  have hexponent : d.exponent + ((k + 1 : Nat) : ℤ) - 1 = (k : ℤ) + d.exponent := by
    push_cast
    ring
  have hten : (10 : ℚ) ≠ 0 := by norm_num
  rw [hk, hexponent, add_comm d.exponent, zpow_add₀ hten, zpow_add₀ hten, zpow_natCast, zpow_natCast,
    Decimal.value]
  exact ⟨mul_le_mul_of_nonneg_right (by exact_mod_cast hlow) hscale.le,
    mul_lt_mul_of_pos_right (by exact_mod_cast hhigh) hscale⟩

theorem twoTo_le_tenTo (k : Nat) : twoTo (3 * k) ≤ tenTo k := by
  have hpow : twoTo (3 * k) = 8 ^ k := Nat.pow_mul 2 3 k
  rw [hpow]
  exact Nat.pow_le_pow_left (by decide) k

theorem two_mul_units_infinityRank : 2 * units infinityRank = twoTo 1075 * twoTo 1024 := by
  have hrank : infinityRank = 2046 * twoTo 52 + twoTo 52 := rfl
  have hpow (k : Nat) : 2 * (twoTo 52 * twoTo k) = twoTo (1 + (52 + k)) := by
    rw [twoTo_add, twoTo_add]
  have hexponent : 1 + (52 + 2046) = 1075 + 1024 := rfl
  rw [hrank, units_add (.inl le_rfl) (by decide), hpow 2046, hexponent, twoTo_add]

theorem natAbs_top_shortest_le (tie : Tie) {rank : Nat} (hpos : 0 < rank) (hlt : rank < infinityRank) :
    ((shortest tie rank).exponent + (Text.numeral (shortest tie rank).digits).length - 1).natAbs ≤
      360 := by
  by_cases hne : (shortest tie rank).digits = 0
  · rw [shortest_eq_zero hpos hne]
    decide
  have hholds := (shortest_cases tie rank).resolve_left fun hzero => hne (by rw [hzero])
  have hlow := hholds.half_le hpos
  have hhigh := hholds.le.2
  obtain ⟨hleading, hlast⟩ := Decimal.leading_bounds hne
  generalize (shortest tie rank).exponent + (Text.numeral (shortest tie rank).digits).length = place
    at *
  have hupper : (10 : ℚ) ^ (place - 1) ≤ 10 ^ (342 : ℤ) := by
    have hunits : units rank + units (rank + 1) ≤ 2 * units infinityRank := by
      have hrank := units_strictMono.monotone hlt.le
      have hnext : units (rank + 1) ≤ units infinityRank := units_strictMono.monotone hlt
      omega
    have hpow : twoTo 1024 ≤ tenTo 342 :=
      (twoTo_mono (by decide : 1024 ≤ 3 * 342)).trans (twoTo_le_tenTo 342)
    have hle : units rank + units (rank + 1) ≤ twoTo 1075 * tenTo 342 :=
      (hunits.trans_eq two_mul_units_infinityRank).trans (Nat.mul_le_mul_left _ hpow)
    refine (hleading.trans hhigh).trans ?_
    rw [div_le_iff₀' (by positivity)]
    calc ((units rank + units (rank + 1) : Nat) : ℚ)
        ≤ (twoTo 1075 * tenTo 342 : Nat) := Nat.cast_le.2 hle
      _ = 2 ^ 1075 * 10 ^ (342 : ℤ) := by
          rw [Nat.cast_mul, cast_twoTo, cast_tenTo]
          rfl
  have hlower : (10 : ℚ) ^ (-359 : ℤ) < 10 ^ place := by
    refine lt_of_le_of_lt ?_ (hlow.trans_lt hlast)
    have hle : twoTo 1075 ≤ tenTo 359 :=
      (twoTo_mono (by decide : 1075 ≤ 3 * 359)).trans (twoTo_le_tenTo 359)
    have hcast : (2 : ℚ) ^ 1075 ≤ 10 ^ 359 := by
      rw [← cast_twoTo, ← cast_tenTo]
      exact Nat.cast_le.2 hle
    rw [zpow_neg, ← one_div]
    exact one_div_le_one_div_of_le (by positivity) hcast
  have hupper' := (zpow_le_zpow_iff_right₀ (by norm_num)).1 hupper
  have hlower' := (zpow_lt_zpow_iff_right₀ (by norm_num)).1 hlower
  omega

end CloudDiagram
