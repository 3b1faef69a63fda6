import CloudDiagram.Number.Binary64
import Mathlib.Order.Monotone.Basic
import Mathlib.Tactic.Ring

/-!
# Rounding to the nearest rank

* `le_roundHalfEven_iff`: which integers the nearest one reaches;
* `units_strictMono`, `units_add`: the values of ranks;
* **`le_nearestRank_iff`**: the nearest rank reaches a rank where the value reaches the middle between
  that rank and the one before it;
* `nearestRank_mono`: a larger value has a larger nearest rank.
-/

namespace CloudDiagram

theorem twoTo_add (a b : Nat) : twoTo (a + b) = twoTo a * twoTo b := Nat.pow_add 2 a b

theorem twoTo_pos (k : Nat) : 0 < twoTo k := Nat.pow_pos (by decide)

/-! ## The nearest integer -/

/-- **The nearest integer reaches `k`** where the quotient is past `k - 1/2`, or there and `k` is
even. -/
theorem le_roundHalfEven_iff (num : Nat) {den k : Nat} (hden : 0 < den) :
    k ≤ roundHalfEven num den ↔
      2 * (k * den) < 2 * num + den ∨ 2 * (k * den) = 2 * num + den ∧ k % 2 = 0 := by
  have hnum := Nat.div_add_mod' num den
  have hmod := Nat.mod_lt num hden
  unfold roundHalfEven
  dsimp only
  generalize num / den = q at *
  generalize num % den = r at *
  obtain hk | rfl | hk : k ≤ q ∨ k = q + 1 ∨ q + 2 ≤ k := by omega
  · have hmul : k * den ≤ q * den := Nat.mul_le_mul_right den hk
    refine iff_of_true ?_ (.inl (by omega))
    split
    · exact hk
    · split
      · omega
      · split <;> omega
  · have hexpand : (q + 1) * den = q * den + den := Nat.succ_mul q den
    rw [hexpand]
    split
    · omega
    · split
      · omega
      · split <;> omega
  · have hmul : (q + 2) * den ≤ k * den := Nat.mul_le_mul_right den hk
    rw [Nat.add_mul] at hmul
    refine iff_of_false ?_ (by omega)
    split
    · omega
    · split
      · omega
      · split <;> omega

theorem le_roundHalfEven {num den k : Nat} (hden : 0 < den) (h : k * den ≤ num) :
    k ≤ roundHalfEven num den :=
  (le_roundHalfEven_iff num hden).2 (.inl (by omega))

theorem roundHalfEven_le_of_lt {num den k : Nat} (hden : 0 < den) (h : num < k * den) :
    roundHalfEven num den ≤ k := by
  refine Nat.not_lt.1 fun hlt => ?_
  have hreach := (le_roundHalfEven_iff num hden).1 (Nat.succ_le_of_lt hlt)
  have hexpand : (k + 1) * den = k * den + den := Nat.succ_mul k den
  rw [Nat.succ_eq_add_one, hexpand] at hreach
  omega

/-! ## The values of ranks -/

theorem twoTo_52 : twoTo 52 = 4503599627370496 := rfl

theorem twoTo_53 : twoTo 53 = 2 * twoTo 52 := rfl

theorem doublings_add {s m : Nat} (hm : twoTo 52 ≤ m ∨ s = 0) (hlt : m < twoTo 53) :
    doublings (s * twoTo 52 + m) = s := by
  have h52 := twoTo_52
  rw [twoTo_53] at hlt
  unfold doublings
  rw [h52] at hm hlt ⊢
  omega

/-- **The value of a rank** whose spacing has doubled `s` times, the last one included. -/
theorem units_add {s m : Nat} (hm : twoTo 52 ≤ m ∨ s = 0) (hle : m ≤ twoTo 53) :
    units (s * twoTo 52 + m) = m * twoTo s := by
  obtain hlt | rfl := Nat.lt_or_eq_of_le hle
  · rw [units, doublings_add hm hlt, Nat.add_sub_cancel_left]
  · have hrank : s * twoTo 52 + twoTo 53 = (s + 1) * twoTo 52 + twoTo 52 := by
      rw [twoTo_53]
      ring
    have hpow : twoTo (s + 1) = twoTo s * 2 := twoTo_add s 1
    rw [hrank, units, doublings_add (.inl le_rfl) (by decide), Nat.add_sub_cancel_left, hpow,
      twoTo_53]
    ring

theorem exists_eq_add (rank : Nat) :
    ∃ s m, rank = s * twoTo 52 + m ∧ (twoTo 52 ≤ m ∨ s = 0) ∧ m < twoTo 53 := by
  have h52 := twoTo_52
  refine ⟨doublings rank, rank - doublings rank * twoTo 52, ?_⟩
  rw [twoTo_53, doublings, h52]
  omega

theorem units_succ (rank : Nat) : units (rank + 1) = units rank + twoTo (doublings rank) := by
  obtain ⟨s, m, rfl, hm, hlt⟩ := exists_eq_add rank
  have hnext : twoTo 52 ≤ m + 1 ∨ s = 0 := hm.imp_left Nat.le_succ_of_le
  rw [doublings_add hm hlt, Nat.add_assoc, units_add hm hlt.le, units_add hnext hlt]
  ring

theorem units_strictMono : StrictMono units := by
  refine strictMono_nat_of_lt_succ fun rank => ?_
  rw [units_succ]
  exact Nat.lt_add_of_pos_right (twoTo_pos _)

/-! ## The nearest rank -/

variable {num den k s : Nat}

theorem middle_lt_of_le (hden : 0 < den) (h : twoTo (52 + s) * den ≤ num)
    (hk : k < s * twoTo 52 + twoTo 52) : (units k + units (k + 1)) * den < 2 * num := by
  have hunits : units (k + 1) ≤ twoTo (52 + s) := by
    rw [twoTo_add, ← units_add (.inl le_rfl) (by decide)]
    exact units_strictMono.monotone hk
  have hstep : units k < units (k + 1) := units_strictMono (Nat.lt_succ_self k)
  calc (units k + units (k + 1)) * den
      < (units (k + 1) + units (k + 1)) * den :=
        Nat.mul_lt_mul_of_pos_right (Nat.add_lt_add_right hstep _) hden
    _ = 2 * (units (k + 1) * den) := by ring
    _ ≤ 2 * num := Nat.mul_le_mul_left 2 ((Nat.mul_le_mul_right den hunits).trans h)

theorem lt_middle_of_lt (h : num < twoTo (53 + s) * den) (hk : s * twoTo 52 + twoTo 53 ≤ k) :
    2 * num < (units k + units (k + 1)) * den := by
  have hunits : twoTo (53 + s) ≤ units k := by
    rw [twoTo_add, ← units_add (.inl (by decide)) le_rfl]
    exact units_strictMono.monotone hk
  have hstep : units k ≤ units (k + 1) := units_strictMono.monotone (Nat.le_succ k)
  calc 2 * num < 2 * (twoTo (53 + s) * den) := Nat.mul_lt_mul_of_pos_left h (by decide)
    _ ≤ 2 * (units k * den) := Nat.mul_le_mul_left 2 (Nat.mul_le_mul_right den hunits)
    _ = (units k + units k) * den := by ring
    _ ≤ (units k + units (k + 1)) * den := Nat.mul_le_mul_right den (Nat.add_le_add_left hstep _)

/-- A middle is half a spacing below the next rank, where the spacing has doubled `s` times. -/
theorem middle_add (den : Nat) {m : Nat} (hm : twoTo 52 ≤ m ∨ s = 0) (hlt : m < twoTo 53) :
    (units (s * twoTo 52 + m) + units (s * twoTo 52 + m + 1)) * den + den * twoTo s =
      2 * ((m + 1) * (den * twoTo s)) := by
  have hnext : twoTo 52 ≤ m + 1 ∨ s = 0 := hm.imp_left Nat.le_succ_of_le
  rw [units_add hm hlt.le, Nat.add_assoc, units_add hnext hlt]
  ring

/-- The bits of a quotient tell how often the spacing has doubled where it lies. -/
theorem shift_bounds (num : Nat) (hden : 0 < den) :
    num < twoTo (53 + (Nat.log2 (num / den) - 52)) * den ∧
      (Nat.log2 (num / den) - 52 ≠ 0 → twoTo (52 + (Nat.log2 (num / den) - 52)) * den ≤ num) := by
  refine ⟨?_, fun h => ?_⟩
  · rw [← Nat.div_lt_iff_lt_mul hden]
    exact Nat.lt_log2_self.trans_le (Nat.pow_le_pow_right (by decide) (by omega))
  · have hne : num / den ≠ 0 := by
      intro hzero
      rw [hzero] at h
      exact h rfl
    have hexponent : 52 + (Nat.log2 (num / den) - 52) = Nat.log2 (num / den) := by omega
    rw [hexponent, ← Nat.le_div_iff_mul_le hden]
    exact Nat.log2_self_le hne

/-- **The nearest rank reaches a rank** where the value is past the middle between that rank and the
one before it, or there and the rank is even. -/
theorem le_nearestRank_iff (num : Nat) (hden : 0 < den) (hk : 0 < k) (hle : k ≤ infinityRank) :
    k ≤ nearestRank num den ↔ (units (k - 1) + units k) * den < 2 * num ∨
      (units (k - 1) + units k) * den = 2 * num ∧ k % 2 = 0 := by
  obtain ⟨k, rfl⟩ : ∃ j, k = j + 1 := ⟨k - 1, by omega⟩
  obtain ⟨hhigh, hlow⟩ := shift_bounds num hden
  rw [Nat.add_sub_cancel]
  unfold nearestRank
  dsimp only
  generalize Nat.log2 (num / den) - 52 = s at *
  have hscale : 0 < den * twoTo s := Nat.mul_pos hden (twoTo_pos s)
  have hassoc (e : Nat) : twoTo (e + s) * den = twoTo e * (den * twoTo s) := by
    rw [twoTo_add]
    ring
  have hmost := roundHalfEven_le_of_lt hscale ((hassoc 53).symm ▸ hhigh)
  have hmin (rounded : Nat) : k + 1 ≤ min infinityRank (s * twoTo 52 + rounded) ↔
      k + 1 ≤ s * twoTo 52 + rounded := Nat.le_min.trans (and_iff_right hle)
  rw [hmin]
  -- below the rounded integers, among them, or above
  obtain hbelow | ⟨m, hm, hlt, rfl⟩ | habove : k < s * twoTo 52 + twoTo 52 ∧ s ≠ 0 ∨
      (∃ m, (twoTo 52 ≤ m ∨ s = 0) ∧ m < twoTo 53 ∧ k = s * twoTo 52 + m) ∨
      s * twoTo 52 + twoTo 53 ≤ k := by
    by_cases hbelow : k < s * twoTo 52 + twoTo 52 ∧ s ≠ 0
    · exact .inl hbelow
    · refine .inr ((Nat.lt_or_ge k (s * twoTo 52 + twoTo 53)).imp_left fun hlt => ?_)
      refine ⟨k - s * twoTo 52, ?_⟩
      rw [twoTo_53, twoTo_52] at *
      omega
  · -- the spacing has doubled more often at the value
    obtain ⟨hlt, hs⟩ := hbelow
    have hrounded := le_roundHalfEven hscale ((hassoc 52).symm.le.trans (hlow hs))
    exact iff_of_true (by omega) (.inl (middle_lt_of_le hden (hlow hs) hlt))
  · have hmiddle := middle_add den hm hlt
    have hround := le_roundHalfEven_iff num (k := m + 1) hscale
    have hparity : (s * twoTo 52 + m + 1) % 2 = (m + 1) % 2 := by
      rw [twoTo_52]
      omega
    have hreach (rounded : Nat) : s * twoTo 52 + m + 1 ≤ s * twoTo 52 + rounded ↔
        m + 1 ≤ rounded := by omega
    rw [hreach, hround, hparity, ← hmiddle]
    omega
  · -- it has doubled more often at the rank
    have hlt := lt_middle_of_lt hhigh habove
    exact iff_of_false (by omega) (by omega)

theorem nearestRank_mono {num' den' : Nat} (hden : 0 < den) (hden' : 0 < den')
    (h : num * den' ≤ num' * den) : nearestRank num den ≤ nearestRank num' den' := by
  obtain hzero | hpos := Nat.eq_zero_or_pos (nearestRank num den)
  · omega
  have hle := Binary64.nearestRank_le num den
  have hreach := (le_nearestRank_iff num hden hpos hle).1 le_rfl
  refine (le_nearestRank_iff num' hden' hpos hle).2 ?_
  generalize units (nearestRank num den - 1) + units (nearestRank num den) = middle at *
  have hswap : middle * den * den' = middle * den' * den := Nat.mul_right_comm middle den den'
  have hcross : 2 * num * den' ≤ 2 * num' * den := by
    rw [Nat.mul_assoc, Nat.mul_assoc]
    exact Nat.mul_le_mul_left 2 h
  obtain hlt | ⟨heq, heven⟩ := hreach
  · left
    have hmul := Nat.mul_lt_mul_of_pos_right hlt hden'
    rw [hswap] at hmul
    exact Nat.lt_of_mul_lt_mul_right (hmul.trans_le hcross)
  · rw [← heq, hswap] at hcross
    obtain hlt | heq' := Nat.lt_or_eq_of_le (Nat.le_of_mul_le_mul_right hcross hden)
    · exact .inl hlt
    · exact .inr ⟨heq', heven⟩

end CloudDiagram
