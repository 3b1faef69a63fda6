import CloudDiagram.Proofs.Diagram.Storable
import CloudDiagram.Proofs.Json.Reread
import CloudDiagram.Proofs.Number.Short

/-!
# Decimals that are read exactly

* `toBinary64?_of_holds`: a significand that is representable and a small exponent are read as the
  nearest number;
* `Binary64.IsShort`: the number nearest to a decimal of at most fifteen digits and twenty-two places;
* **`Binary64.IsShort.readsBack`**: such a number is read from its own text.
-/

namespace CloudDiagram.Json

open Binary64

/-! ## Small exponents -/

theorem nearestRank_scale (num : Nat) {den c : Nat} (hden : 0 < den) (hc : 0 < c) :
    nearestRank (num * c) (den * c) = nearestRank num den := by
  have hscaled := Nat.mul_pos hden hc
  refine Nat.le_antisymm (nearestRank_mono hscaled hden ?_) (nearestRank_mono hden hscaled ?_)
  · rw [Nat.mul_assoc, Nat.mul_comm c]
  · rw [Nat.mul_assoc, Nat.mul_comm c]

/-- The natural number is representable. -/
def Representable (n : Nat) : Prop := units (naturalRank n) = n * twoTo 1074

theorem representable_of_eq {n m shift : Nat} (hm : m ≤ twoTo 53) (hshift : shift ≤ 900)
    (hn : n = m * twoTo shift) : Representable n := by
  have hlow : 52 ≤ 1074 + shift := by omega
  obtain ⟨rank, hlt, hunits⟩ := exists_units_eq hm hlow (by omega)
  have hvalue : n * twoTo 1074 = units rank := by
    rw [hunits, hn, Nat.add_comm 1074, twoTo_add, Nat.mul_assoc]
  have hrank := nearestRank_units Nat.one_pos hlt.le
  rw [Nat.mul_one] at hrank
  rw [Representable, naturalRank, hvalue, hrank]

theorem representable_tenTo {k : Nat} (hk : k ≤ 22) : Representable (tenTo k) := by
  have hfive : 5 ^ k ≤ twoTo 53 :=
    Nat.le_trans (Nat.pow_le_pow_right (by decide) hk) (by decide)
  exact representable_of_eq hfive (hk.trans (by decide)) (Nat.mul_pow 5 2 k)

theorem Scaled.value_eq_div (s : Scaled) :
    s.value = (s.significand * tenTo s.exponent.toNat * twoTo 1074 : Nat) /
      (tenTo (-s.exponent).toNat : Nat) / 2 ^ 1074 := by
  have hunit : (2 : ℚ) ^ 1074 ≠ 0 := by positivity
  rw [Scaled.value, zpow_eq_div, Nat.cast_mul, Nat.cast_mul, cast_tenTo, cast_tenTo, cast_twoTo,
    mul_div_right_comm, mul_div_assoc, mul_div_assoc, div_self hunit, mul_one]

variable {rank : Nat}

theorem div_ofNat (a b : Nat) : (Binary64.ofNat a).div (.ofNat b) =
    .ofRank false (nearestRank (units (naturalRank a) * twoTo 1074) (units (naturalRank b)))
      (nearestRank_le _ _) := rfl

theorem ofRank_congr {a b : Nat} (h : a = b) {ha : a ≤ infinityRank} {hb : b ≤ infinityRank} :
    Binary64.ofRank false a ha = .ofRank false b hb := by
  subst h
  rfl

theorem signed_eq_some (negative : Bool) (hlt : rank < infinityRank) :
    (if (Binary64.ofRank false rank hlt.le).isFinite then
      some (if negative then (Binary64.ofRank false rank hlt.le).neg else .ofRank false rank hlt.le)
      else none) = some (.ofRank negative rank hlt.le) := by
  rw [isFinite, decide_eq_true hlt, if_pos rfl]
  cases negative <;> rfl

/-- **A representable significand with a small exponent** is read as the nearest number. -/
theorem toBinary64?_of_holds (negative : Bool) {s : Scaled} (hpos : 0 < rank)
    (hlt : rank < infinityRank) (hsignificand : Representable s.significand)
    (hexponent : s.exponent.natAbs ≤ 22) (h : (RoundingInterval.ofRank rank).Holds s.value) :
    s.toBinary64? negative = some (.ofRank negative rank hlt.le) := by
  have hnearest : nearestRank (s.significand * tenTo s.exponent.toNat * twoTo 1074)
      (tenTo (-s.exponent).toNat) = rank := by
    rw [nearestRank_eq_iff (tenTo_pos _) hpos hlt, ← s.value_eq_div]
    exact h
  have hten := representable_tenTo hexponent
  have hunit := twoTo_pos 1074
  rw [Representable] at hsignificand hten
  obtain ⟨significand, exponent⟩ := s
  dsimp only at *
  unfold Scaled.toBinary64?
  dsimp only
  by_cases hneg : exponent < 0
  · have hquotient : nearestRank (units (naturalRank significand) * twoTo 1074)
        (units (naturalRank (tenTo exponent.natAbs))) = rank := by
      have hplaces : (-exponent).toNat = exponent.natAbs := by omega
      have hwhole : exponent.toNat = 0 := by omega
      rw [hplaces, hwhole] at hnearest
      rw [hsignificand, hten, nearestRank_scale _ (tenTo_pos _) hunit, ← hnearest]
      exact congrArg (fun n => nearestRank (n * twoTo 1074) _) (Nat.mul_one significand).symm
    have hdivide : Scaled.divide (Binary64.ofNat significand) exponent.natAbs 4 =
        .ofRank false rank hlt.le := by
      rw [Scaled.divide, if_pos (by omega), div_ofNat]
      exact ofRank_congr hquotient
    rw [if_pos hneg, hdivide]
    exact signed_eq_some negative hlt
  · have hproduct : productRank significand (tenTo exponent.toNat) = rank := by
      have hplaces : exponent.natAbs = exponent.toNat := by omega
      have hwhole : (-exponent).toNat = 0 := by omega
      have hsum : 2148 = 1074 + 1074 := rfl
      have hregroup (a b u : Nat) : a * u * (b * u) * u = a * b * u * (u * u) := by ring
      have hscale := nearestRank_scale (significand * tenTo exponent.toNat * twoTo 1074)
        Nat.one_pos (Nat.mul_pos hunit hunit)
      rw [Nat.one_mul] at hscale
      rw [hplaces] at hten
      rw [hwhole] at hnearest
      rw [productRank, hsignificand, hten, hsum, twoTo_add, hregroup, hscale]
      exact hnearest
    have hmul : (Binary64.ofNat significand).mul (.ofNat (tenTo exponent.toNat)) =
        .ofRank false rank hlt.le := by
      rw [mul_ofNat]
      exact ofRank_congr hproduct
    rw [if_neg hneg, if_pos (by omega), hmul]
    exact signed_eq_some negative hlt

/-! ## Decimals of at most fifteen digits -/

section Short

variable {k j : Nat} (hk : 0 < k) (hk15 : k < tenTo 15) (hj : j ≤ 22)

include hk hj in
theorem three_le_nearestRank : 3 ≤ nearestRank (k * twoTo 1074) (tenTo j) := by
  have hunits : units 2 + units 3 = 5 := by decide
  have hpow : 5 * tenTo j < twoTo 100 :=
    (Nat.mul_le_mul_left 5 (tenTo_mono hj)).trans_lt (by decide)
  have hlarge : twoTo 100 ≤ twoTo 1074 := twoTo_mono (by decide)
  have hle : twoTo 1074 ≤ k * twoTo 1074 := Nat.le_mul_of_pos_left _ hk
  refine (le_nearestRank_iff _ (tenTo_pos j) (by decide) (by decide)).2 (.inl ?_)
  rw [hunits]
  omega

include hk15 in
theorem nearestRank_lt_infinityRank : nearestRank (k * twoTo 1074) (tenTo j) < infinityRank := by
  have hsize : k ≤ UInt64.size := hk15.le.trans (by decide)
  refine lt_of_le_of_lt (nearestRank_mono (tenTo_pos j) Nat.one_pos ?_) rankFacts.size_lt
  rw [Nat.mul_one]
  exact (Nat.mul_le_mul_right _ hsize).trans (Nat.le_mul_of_pos_right _ (tenTo_pos j))

theorem toBinary64?_of_renders (negative : Bool) {s : Scaled} {d : Decimal} (hpos : 0 < rank)
    (hlt : rank < infinityRank) (hs : s.Renders d)
    (hholds : (RoundingInterval.ofRank rank).Holds d.value) (hplaces : -22 ≤ d.exponent)
    (hdigits : 2 * d.digits < 3 * tenTo 15) (hvalue : 2 * d.value < 3 * 10 ^ 15) :
    s.toBinary64? negative = some (.ofRank negative rank hlt.le) := by
  have hsize : d.digits < UInt64.size := by
    have hlarge : 3 * tenTo 15 ≤ 2 * UInt64.size := by decide
    omega
  have hfits : d.digits ≤ twoTo 53 := by
    have hlarge : 3 * tenTo 15 ≤ 2 * twoTo 53 := by decide
    omega
  obtain rfl | ⟨k, hk, rfl⟩ := hs.exact hsize
  · -- the digits are all kept, and the value bounds the exponent
    have hexponent : d.exponent < 16 := by
      have hone : (1 : ℚ) ≤ d.digits := Nat.one_le_cast.2 (hholds.digits_pos hpos)
      have hle : (10 : ℚ) ^ d.exponent ≤ d.value := le_mul_of_one_le_left (by positivity) hone
      have hpow : (10 : ℚ) ^ d.exponent < 10 ^ (16 : ℤ) := by
        have hlarge : (3 : ℚ) * 10 ^ 15 ≤ 2 * 10 ^ (16 : ℤ) := by norm_num
        linarith
      exact (zpow_lt_zpow_iff_right₀ (by norm_num)).1 hpow
    exact toBinary64?_of_holds negative hpos hlt
      (representable_of_eq hfits (by decide : 0 ≤ 900) (Nat.mul_one _).symm) (by dsimp only; omega)
      hholds
  · -- a zero after the point is read with the digits
    have hwhole : d.value = (d.digits * tenTo k : Nat) := by
      rw [Decimal.value, hk, zpow_natCast, Nat.cast_mul, cast_tenTo]
    have hsum : 2 * (d.digits * tenTo k) < 3 * tenTo 15 := by
      rw [hwhole] at hvalue
      exact_mod_cast hvalue
    have hten : d.digits * tenTo (k + 1) = 5 * (d.digits * tenTo k) * twoTo 1 := by
      have hpow : tenTo (k + 1) = tenTo k * 10 := Nat.pow_succ 10 k
      have htwo : twoTo 1 = 2 := rfl
      rw [hpow, htwo]
      ring
    have hmost : 5 * (d.digits * tenTo k) ≤ twoTo 53 := by
      have hlarge : 5 * (3 * tenTo 15) ≤ 2 * twoTo 53 := by decide
      omega
    refine toBinary64?_of_holds negative hpos hlt (representable_of_eq hmost (by decide) hten)
      (by dsimp only; decide) ?_
    rw [Scaled.value_whole, ← cast_tenTo, ← Nat.cast_mul, ← hwhole]
    exact hholds

include hk hk15 hj in
theorem readNumeral_short (negative : Bool) (hrank : nearestRank (k * twoTo 1074) (tenTo j) = rank)
    (hlt : rank < infinityRank) : readNumeral negative (jsonLayout.writeRank rank) =
      (.number (.float (.ofRank negative rank hlt.le) (decide_eq_true hlt)), some []) := by
  have hthree : 3 ≤ rank := hrank ▸ three_le_nearestRank hk hj
  have hpos : 0 < rank := Nat.zero_lt_of_lt hthree
  have hholds : (RoundingInterval.ofRank rank).Holds (k * 10 ^ (-(j : ℤ))) := by
    have hunit : (2 : ℚ) ^ 1074 ≠ 0 := by positivity
    have hdecimal : ((k * twoTo 1074 : Nat) / (tenTo j : Nat) / 2 ^ 1074 : ℚ) =
        k * 10 ^ (-(j : ℤ)) := by
      rw [Nat.cast_mul, cast_twoTo, cast_tenTo, div_right_comm, mul_div_cancel_right₀ _ hunit,
        zpow_neg, zpow_natCast, div_eq_mul_inv]
    rw [← hdecimal]
    exact (nearestRank_eq_iff (tenTo_pos j) hpos hlt).1 hrank
  obtain ⟨hshortest, hplaces, hclose⟩ :=
    shortest_of_short .even hthree hlt hk hk15 hj hholds
  obtain ⟨s, hread, hrenders⟩ := exists_readNumeral_writeRank negative hlt
  rw [decimalOf, if_neg hpos.ne'] at hrenders
  generalize shortest .even rank = d at *
  have hscale : (0 : ℚ) < 10 ^ (-(j : ℤ)) := by positivity
  have hmost : (k : ℚ) < 10 ^ 15 := by exact_mod_cast hk15
  have hvalue : 2 * d.value < 3 * 10 ^ 15 := by
    have hunit : (10 : ℚ) ^ (-(j : ℤ)) ≤ 1 := zpow_le_one_of_nonpos₀ (by norm_num) (by omega)
    have hle : (k : ℚ) * 10 ^ (-(j : ℤ)) ≤ k := mul_le_of_le_one_right (Nat.cast_nonneg k) hunit
    linarith
  have hdigits : 2 * d.digits ≤ 3 * k := by
    have hcoarse : (d.digits : ℚ) * 10 ^ (-(j : ℤ)) ≤ d.value :=
      mul_le_mul_of_nonneg_left (zpow_le_zpow_right₀ (by norm_num) hplaces) (Nat.cast_nonneg _)
    have hle : (2 * d.digits : ℚ) * 10 ^ (-(j : ℤ)) ≤ 3 * k * 10 ^ (-(j : ℤ)) := by linarith
    exact_mod_cast le_of_mul_le_mul_right hle hscale
  exact hread.trans <| ofScaled_eq_number
    (toBinary64?_of_renders negative hpos hlt hrenders hshortest (by omega) (by omega) hvalue) _

end Short

end CloudDiagram.Json

namespace CloudDiagram.Binary64

open Json

/-- **The number nearest to a decimal** of at most fifteen digits and twenty-two places. -/
def IsShort (x : Binary64) : Prop :=
  ∃ (negative : Bool) (k j : Nat), k < tenTo 15 ∧ j ≤ 22 ∧ x = ofRatio negative k (tenTo j)

/-- **Such a number is read from its own text.** -/
theorem IsShort.readsBack {x : Binary64} (h : x.IsShort) : x.ReadsBack := by
  obtain ⟨negative, k, j, hk, hj, rfl⟩ := h
  have hlt := nearestRank_lt_infinityRank (j := j) hk
  have hread : ∀ {rank : Nat} (hlt : rank < infinityRank),
      nearestRank (k * twoTo 1074) (tenTo j) = rank →
        readNumeral negative (jsonLayout.writeRank rank) =
          (.number (.float (.ofRank negative rank hlt.le) (decide_eq_true hlt)), some []) := by
    intro rank hlt hrank
    obtain rfl | hpos := Nat.eq_zero_or_pos k
    · have hzero : units 0 = 0 := rfl
      have hnearest := nearestRank_units (tenTo_pos j) (Nat.zero_le infinityRank)
      rw [hzero, Nat.zero_mul] at hnearest
      rw [Nat.zero_mul, hnearest] at hrank
      subst hrank
      exact Reading.isNumber_iff.1 (readNumeral_ends negative).1
    · exact readNumeral_short hpos hk hj negative hrank hlt
  intro hfinite
  rw [Number.readsBack_iff, Number.chars]
  exact readNumber_write hlt (hread hlt rfl)

end CloudDiagram.Binary64
