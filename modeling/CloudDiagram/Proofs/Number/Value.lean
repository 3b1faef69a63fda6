import CloudDiagram.Json.Number
import CloudDiagram.Proofs.Number.Shortest

/-!
# The value of a number

* `Binary64.value`, `Json.Number.value`: the rational number that a finite number is;
* **`Json.Number.whole?_eq_some_iff`**: the natural number that is read is the value;
* `twoTo_dvd_units`, **`Json.Number.whole?_of_large`**: a value of `2^64` or more is whole.
-/

namespace CloudDiagram

/-! ## Units -/

theorem units_zero : units 0 = 0 := by simp [units]

theorem twoTo_dvd {j k : Nat} (h : j ≤ k) : twoTo j ∣ twoTo k := Nat.pow_dvd_pow 2 h

/-- **Large values are whole**: what is too large for the spacing of the whole numbers to matter. -/
theorem twoTo_dvd_units {rank : Nat} (h : twoTo (53 + 1074) ≤ units rank) : twoTo 1074 ∣ units rank := by
  obtain ⟨s, m, rfl, hm, hlt⟩ := exists_eq_add rank
  rw [units_add hm hlt.le] at h ⊢
  -- a smaller spacing would leave the significand below `2^53` and the units below `2^1127`
  have hs : 1074 ≤ s := by
    refine Nat.not_lt.1 fun hlow => ?_
    have hmul : m * twoTo s < twoTo 53 * twoTo 1074 :=
      Nat.mul_lt_mul_of_lt_of_le hlt (twoTo_mono hlow.le) (twoTo_pos _)
    rw [← twoTo_add] at hmul
    exact Nat.not_lt.2 h hmul
  exact Dvd.dvd.mul_left (twoTo_dvd hs) m

theorem cast_div_eq_iff {a b k : Nat} (hb : 0 < b) :
    (a / b : ℚ) = k ↔ a % b = 0 ∧ a / b = k := by
  have hb' : (b : ℚ) ≠ 0 := Nat.cast_ne_zero.2 hb.ne'
  rw [div_eq_iff hb', ← Nat.cast_mul, Nat.cast_inj]
  constructor
  · rintro rfl
    exact ⟨Nat.mul_mod_left k b, Nat.mul_div_cancel k hb⟩
  · rintro ⟨hmod, rfl⟩
    exact (Nat.div_mul_cancel (Nat.dvd_of_mod_eq_zero hmod)).symm

/-! ## Floating-point numbers -/

namespace Binary64

/-- **The value of a finite number.** -/
def value : Binary64 → ℚ
  | .nan => 0
  | .ofRank negative rank _ =>
    if negative then -(units rank / twoTo 1074) else units rank / twoTo 1074

/-- **The natural number that is read from a finite number** is its value. -/
theorem whole?_eq_some_iff {x : Binary64} (hfinite : x.isFinite = true) {k : Nat} :
    x.whole? = some k ↔ x.value = k := by
  cases x with
  | nan => cases hfinite
  | ofRank negative rank hle =>
    have hrank : rank ≠ infinityRank := (of_decide_eq_true hfinite).ne
    have hone := twoTo_pos 1074
    unfold whole? value
    generalize twoTo 1074 = one at hone
    have hdiv := cast_div_eq_iff (a := units rank) (k := k) hone
    cases negative with
    | false => simp [hrank, hdiv, and_comm]
    | true =>
      obtain rfl | hpos := Nat.eq_zero_or_pos rank
      · have hzero : (0 : ℚ) = k ↔ 0 = k := by rw [← Nat.cast_zero, Nat.cast_inj]
        simp [units_zero, hrank, hzero]
      · have hneg : -(units rank / one : ℚ) < 0 :=
          neg_neg_of_pos (div_pos (Nat.cast_pos.2 (units_pos hpos)) (Nat.cast_pos.2 hone))
        have hne : -(units rank / one : ℚ) ≠ k := (hneg.trans_le (Nat.cast_nonneg k)).ne
        simp [hrank, hpos.ne', hne]

theorem value_ofNat {n : Nat} (h : units (nearestRank (n * twoTo 1074) 1) = n * twoTo 1074) :
    (ofNat n).value = n := by
  have hone : (twoTo 1074 : ℚ) ≠ 0 := Nat.cast_ne_zero.2 (twoTo_pos 1074).ne'
  simp only [ofNat, ofRatio, value, Bool.false_eq_true, if_false, h]
  rw [Nat.cast_mul, mul_div_cancel_right₀ _ hone]

theorem exists_value_eq_of_large {x : Binary64} (hlarge : 2 ^ 64 ≤ x.value) :
    ∃ k : Nat, x.value = k := by
  cases x with
  | nan => exact ⟨0, Nat.cast_zero.symm⟩
  | ofRank negative rank hle =>
    have hone : (0 : ℚ) < twoTo 1074 := Nat.cast_pos.2 (twoTo_pos 1074)
    have hunits : (0 : ℚ) ≤ units rank / twoTo 1074 := div_nonneg (Nat.cast_nonneg _) hone.le
    cases negative with
    | true =>
      have hvalue : -(units rank / twoTo 1074 : ℚ) ≤ 0 := neg_nonpos_of_nonneg hunits
      exact absurd (hlarge.trans hvalue) (by norm_num)
    | false =>
      have hle : (2 ^ 64 : ℚ) * twoTo 1074 ≤ units rank := (le_div_iff₀ hone).1 hlarge
      rw [← cast_twoTo, ← Nat.cast_mul, Nat.cast_le, ← twoTo_add] at hle
      obtain ⟨k, hk⟩ := twoTo_dvd_units ((twoTo_mono (by decide)).trans hle)
      refine ⟨k, (cast_div_eq_iff (twoTo_pos 1074)).2 ?_⟩
      rw [hk]
      exact ⟨Nat.mul_mod_right _ k, Nat.mul_div_cancel_left k (twoTo_pos 1074)⟩

end Binary64

/-! ## Numbers of a document -/

namespace Json.Number

/-- **The value of a number.** -/
def value : Number → ℚ
  | .integer i _ => i
  | .float x _ => x.value

variable {x : Number} {k : Nat}

/-- **The natural number that is read** is the value. -/
theorem whole?_eq_some_iff : x.whole? = some k ↔ x.value = k := by
  cases x with
  | float x hfinite => exact Binary64.whole?_eq_some_iff hfinite
  | integer i h =>
    have hcast : (i : ℚ) = k ↔ i = k := by exact_mod_cast Iff.rfl
    rw [value, hcast, whole?]
    split
    · rw [Option.some.injEq]
      omega
    · simp only [reduceCtorEq, false_iff]
      omega

theorem whole?_of_large (hlarge : 2 ^ 64 ≤ x.value) : ∃ k, 2 ^ 64 ≤ k ∧ x.whole? = some k := by
  cases x with
  | integer i h =>
    rw [value] at hlarge
    have hi : (2 ^ 64 : ℤ) ≤ i := by exact_mod_cast hlarge
    omega
  | float x hfinite =>
    obtain ⟨k, hk⟩ := Binary64.exists_value_eq_of_large hlarge
    refine ⟨k, ?_, (Binary64.whole?_eq_some_iff hfinite).2 hk⟩
    rw [value, hk] at hlarge
    exact_mod_cast hlarge

end Json.Number

end CloudDiagram
