import Mathlib.Tactic.MkIffOfInductiveProp
import CloudDiagram.Json.Numeral
import CloudDiagram.Proofs.Number.Shortest

/-!
# Numbers of significands and exponents

* `Scaled.value`: the value of a significand and an exponent;
* `productRank_mono`, `exists_divide`: products and quotients are not larger than those of larger
  numbers;
* **`exists_toBinary64?`**: a value of at most the middle between the two largest numbers has a finite
  number.
-/

namespace CloudDiagram.Json

open Binary64

/-- **The value of a significand and an exponent.** -/
def Scaled.value (s : Scaled) : ℚ := s.significand * 10 ^ s.exponent

/-! ## Products -/

/-- The rank of a natural number. -/
def naturalRank (n : Nat) : Nat := nearestRank (n * twoTo 1074) 1

/-- The rank of the product of two numbers. -/
def productRank (a b : Nat) : Nat :=
  nearestRank (units (naturalRank a) * units (naturalRank b) * twoTo 1074) (twoTo 2148)

theorem naturalRank_mono {a a' : Nat} (h : a ≤ a') : naturalRank a ≤ naturalRank a' :=
  nearestRank_mono (by decide) (by decide)
    (Nat.mul_le_mul_right _ (Nat.mul_le_mul_right _ h))

theorem productRank_mono {a a' b b' : Nat} (ha : a ≤ a') (hb : b ≤ b') :
    productRank a b ≤ productRank a' b' := by
  have hunits := units_strictMono.monotone (naturalRank_mono ha)
  have hunits' := units_strictMono.monotone (naturalRank_mono hb)
  refine nearestRank_mono (twoTo_pos _) (twoTo_pos _) (Nat.mul_le_mul_right _ ?_)
  exact Nat.mul_le_mul_right _ (Nat.mul_le_mul hunits hunits')

/-- The middle between the two largest numbers, in units, doubled. -/
def largestMiddle : Nat := units (infinityRank - 2) + units (infinityRank - 1)

/-- The largest significand with which a power of ten does not reach past that middle. -/
def largestSignificand (places : Nat) : Nat := largestMiddle / (tenTo places * twoTo 1075)

/-- The rank of `2 ^ 64`. -/
def sizeRank : Nat := naturalRank UInt64.size

/-- What is computed of ranks: those of zero, one and `2 ^ 64`, and the largest products. -/
@[mk_iff] structure RankFacts : Prop where
  zero : naturalRank 0 = 0
  one : units (naturalRank 1) = twoTo 1074
  size_div_one : nearestRank (units sizeRank * twoTo 1074) (twoTo 1074) = sizeRank
  size_lt : sizeRank < infinityRank
  middle_lt : largestMiddle < tenTo 309 * twoTo 1075
  small : productRank UInt64.size (tenTo 288) < infinityRank
  large : ∀ k < 20, productRank (largestSignificand (289 + k)) (tenTo (289 + k)) < infinityRank

theorem rankFacts : RankFacts := (rankFacts_iff).2 (by decide +kernel)

/-- **A product of at most the middle between the two largest numbers** does not become infinite. -/
theorem productRank_lt {significand places : Nat} (hsize : significand < UInt64.size)
    (hplaces : places ≤ 308) (h : significand * (tenTo places * twoTo 1075) ≤ largestMiddle) :
    productRank significand (tenTo places) < infinityRank := by
  obtain hsmall | hlarge := Nat.lt_or_ge places 289
  · have hpow := tenTo_mono (Nat.le_of_lt_succ hsmall)
    exact (productRank_mono hsize.le hpow).trans_lt rankFacts.small
  · obtain ⟨k, rfl⟩ := Nat.exists_eq_add_of_le hlarge
    have hpos : 0 < tenTo (289 + k) * twoTo 1075 :=
      Nat.mul_pos (tenTo_pos _) (twoTo_pos _)
    have hle := (Nat.le_div_iff_mul_le hpos).2 h
    exact (productRank_mono hle le_rfl).trans_lt (rankFacts.large k (by omega))

theorem mul_ofNat (a b : Nat) :
    (Binary64.ofNat a).mul (.ofNat b) = .ofRank false (productRank a b) (nearestRank_le _ _) := rfl

/-! ## Quotients -/

theorem exists_div {rank n : Nat} (hrank : rank ≤ sizeRank) (hle : rank ≤ infinityRank) (hn : 0 < n) :
    ∃ (quotient : Nat) (h : quotient ≤ infinityRank),
      (Binary64.ofRank false rank hle).div (.ofNat n) = .ofRank false quotient h ∧
        quotient ≤ sizeRank := by
  refine ⟨_, _, rfl, ?_⟩
  have hone : twoTo 1074 ≤ units (naturalRank n) := by
    rw [← rankFacts.one]
    exact units_strictMono.monotone (naturalRank_mono hn)
  refine (nearestRank_mono ((twoTo_pos _).trans_le hone) (twoTo_pos _) ?_).trans_eq
    rankFacts.size_div_one
  exact Nat.mul_le_mul (Nat.mul_le_mul_right _ (units_strictMono.monotone hrank)) hone

theorem exists_divide (fuel places : Nat) {rank : Nat} (hrank : rank ≤ sizeRank)
    (hle : rank ≤ infinityRank) :
    ∃ (quotient : Nat) (h : quotient ≤ infinityRank),
      Scaled.divide (.ofRank false rank hle) places fuel = .ofRank false quotient h ∧
        quotient ≤ sizeRank := by
  induction fuel generalizing rank places with
  | zero => exact ⟨rank, hle, rfl, hrank⟩
  | succ fuel ih =>
    unfold Scaled.divide
    split
    · exact exists_div hrank hle (tenTo_pos places)
    · split
      · exact ⟨rank, hle, rfl, hrank⟩
      · obtain ⟨quotient, h, hdiv, hquotient⟩ :=
          exists_div hrank hle (tenTo_pos 308)
        rw [hdiv]
        exact ih _ hquotient h

/-! ## Numbers of significands and exponents -/

theorem value_natCast (significand places : Nat) :
    (Scaled.mk significand places).value * 2 ^ 1075 =
      (significand * (tenTo places * twoTo 1075) : Nat) := by
  rw [Scaled.value, zpow_natCast, Nat.cast_mul, Nat.cast_mul, cast_tenTo, cast_twoTo, mul_assoc]

/-- **A value of at most the middle between the two largest numbers** has a finite number. -/
theorem exists_toBinary64? (negative : Bool) {s : Scaled} (hsize : s.significand < UInt64.size)
    (h : s.value ≤ largestMiddle / 2 ^ 1075) :
    ∃ x, s.toBinary64? negative = some x ∧ x.isFinite = true := by
  have hsign : ∀ (rank : Nat) (hle : rank ≤ infinityRank), rank < infinityRank →
      ∃ x, (if (Binary64.ofRank false rank hle).isFinite then
        some (if negative then (Binary64.ofRank false rank hle).neg else .ofRank false rank hle)
        else none) = some x ∧ x.isFinite = true := by
    intro rank hle hlt
    rw [isFinite, decide_eq_true hlt, if_pos rfl]
    cases negative
    · exact ⟨_, rfl, decide_eq_true hlt⟩
    · exact ⟨_, rfl, decide_eq_true hlt⟩
  obtain ⟨significand, exponent⟩ := s
  unfold Scaled.toBinary64?
  dsimp only at hsize ⊢
  obtain hneg | ⟨places, rfl⟩ : exponent < 0 ∨ ∃ places : Nat, exponent = places := by
    obtain hlt | hle := lt_or_ge exponent 0
    · exact .inl hlt
    · exact .inr ⟨exponent.toNat, (Int.toNat_of_nonneg hle).symm⟩
  · rw [if_pos hneg]
    have hmagnitude : naturalRank significand ≤ sizeRank := naturalRank_mono hsize.le
    obtain ⟨quotient, hle, hdivide, hquotient⟩ :=
      exists_divide 4 exponent.natAbs hmagnitude (nearestRank_le _ _)
    have hofNat : Binary64.ofNat significand = .ofRank false (naturalRank significand)
      (nearestRank_le _ _) := rfl
    rw [hofNat, hdivide]
    exact hsign quotient hle (hquotient.trans_lt rankFacts.size_lt)
  · have hvalue : significand * (tenTo places * twoTo 1075) ≤ largestMiddle := by
      rw [le_div_iff₀ (by positivity), value_natCast] at h
      exact_mod_cast h
    rw [if_neg (by omega)]
    by_cases hplaces : places ≤ 308
    · rw [if_pos (by omega), Int.toNat_natCast, mul_ofNat]
      exact hsign _ _ (productRank_lt hsize hplaces hvalue)
    · -- such a power of ten leaves room for no significand but zero
      rw [if_neg (by omega)]
      obtain rfl : significand = 0 := by
        refine Nat.eq_zero_of_not_pos fun hpos => ?_
        have hpow : tenTo 309 * twoTo 1075 ≤ tenTo places * twoTo 1075 :=
          Nat.mul_le_mul_right _ (tenTo_mono (by omega))
        have hle := Nat.le_mul_of_pos_left (tenTo places * twoTo 1075) hpos
        exact absurd ((hpow.trans hle).trans hvalue) (Nat.not_le.2 rankFacts.middle_lt)
      have hzero : naturalRank 0 < infinityRank :=
        (naturalRank_mono (Nat.zero_le _)).trans_lt rankFacts.size_lt
      have hisZero : (Binary64.ofNat 0).isZero = true := beq_iff_eq.2 rankFacts.zero
      rw [hisZero]
      exact hsign (naturalRank 0) (nearestRank_le _ _) hzero

end CloudDiagram.Json
