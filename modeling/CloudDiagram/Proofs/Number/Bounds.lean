import CloudDiagram.Json.Number

/-!
# Numbers that are finite

* `nearestRank_lt`: a number of fewer than `2^2000` units has a finite rank;
* **`Number.isFinite_toBinary64`**: every number of a document has a finite nearest number.
-/

namespace CloudDiagram

theorem roundHalfEven_le (num den : Nat) : roundHalfEven num den ≤ num / den + 1 := by
  unfold roundHalfEven
  dsimp only
  repeat' split
  all_goals omega

theorem div_twoTo_lt (num : Nat) : num / twoTo (Nat.log2 num - 52) < twoTo 53 := by
  refine Nat.div_lt_of_lt_mul ?_
  have hpow : twoTo (Nat.log2 num - 52) * twoTo 53 = twoTo (Nat.log2 num - 52 + 53) :=
    (Nat.pow_add 2 _ _).symm
  rw [hpow]
  exact Nat.lt_of_lt_of_le Nat.lt_log2_self (Nat.pow_le_pow_right (by decide) (by omega))

/-- **A number of fewer than `2^2000` units has a finite rank.** -/
theorem nearestRank_lt {num k : Nat} (h : num < twoTo k) (hk : k ≤ 2000) :
    nearestRank num 1 < infinityRank := by
  have hlog : Nat.log2 num ≤ 2000 := by
    rcases Nat.eq_zero_or_pos num with rfl | hpos
    · decide
    · have hlt := (Nat.log2_lt (Nat.ne_of_gt hpos)).2 h
      omega
  have hkept := div_twoTo_lt num
  have hround := roundHalfEven_le num (twoTo (Nat.log2 num - 52))
  have h52 : twoTo 52 = 4503599627370496 := by decide
  have h53 : twoTo 53 = 9007199254740992 := by decide
  have hmul : (Nat.log2 num - 52) * twoTo 52 ≤ 1948 * twoTo 52 :=
    Nat.mul_le_mul_right _ (by omega)
  unfold nearestRank infinityRank
  simp only [Nat.div_one, Nat.one_mul]
  omega

theorem mul_twoTo_lt {n a b : Nat} (h : n < twoTo a) : n * twoTo b < twoTo (a + b) := by
  have hpow : twoTo (a + b) = twoTo a * twoTo b := Nat.pow_add 2 a b
  rw [hpow]
  exact Nat.mul_lt_mul_of_pos_right h (Nat.pow_pos (by decide))

theorem Binary64.isFinite_ofNat {n : Nat} (h : n < twoTo 65) :
    (Binary64.ofNat n).isFinite = true :=
  decide_eq_true (nearestRank_lt (mul_twoTo_lt h) (by decide))

theorem Binary64.isFinite_neg (x : Binary64) : x.neg.isFinite = x.isFinite := by
  cases x <;> rfl

theorem Json.Number.isFinite_toBinary64 (n : Json.Number) : n.toBinary64.isFinite = true := by
  cases n with
  | float x h => exact h
  | integer i h =>
    have hlt : i.natAbs < twoTo 65 := by
      have h65 : twoTo 65 = 36893488147419103232 := by decide
      omega
    have hfinite := Binary64.isFinite_ofNat hlt
    rw [toBinary64, Binary64.ofInt]
    split
    · rw [Binary64.isFinite_neg]
      exact hfinite
    · exact hfinite

end CloudDiagram
