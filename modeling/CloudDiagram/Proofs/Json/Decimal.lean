import CloudDiagram.Proofs.Json.Number
import CloudDiagram.Proofs.Json.Scaled
import CloudDiagram.Proofs.Text.Ascii

/-!
# Decimals read from their text

* `fraction_le`, `ofDigits_eq`: the significand and the exponent of digits before and after the point
  are not more than their value;
* `Scaled.Renders`: a significand and an exponent that stand for a decimal;
* **`readNumeral_layout`**: the text of a decimal is read as such a significand and exponent.
-/

namespace CloudDiagram.Json

open Text

/-! ## Rows of digits -/

theorem digitValue_lt {c : Char} (h : isDigit c = true) : digitValue c < 10 := by
  have hcode := isDigit_iff.1 h
  have hvalue : digitValue c = c.toNat - 48 := rfl
  omega

theorem ofDigitChars_lt {digits : List Char} (h : ∀ c ∈ digits, isDigit c = true) (m : Nat) :
    Nat.ofDigitChars 10 digits m < (m + 1) * tenTo digits.length := by
  induction digits generalizing m with
  | nil => simp
  | cons c digits ih =>
    obtain ⟨hc, hdigits⟩ := List.forall_mem_cons.1 h
    have hdigit := digitValue_lt hc
    have hpow : tenTo (digits.length + 1) = tenTo digits.length * 10 := Nat.pow_succ 10 _
    rw [Nat.ofDigitChars_cons, List.length_cons, hpow]
    refine (ih hdigits _).trans_le ?_
    have hstep : 10 * m + digitValue c + 1 ≤ (m + 1) * 10 := by omega
    calc (10 * m + digitValue c + 1) * tenTo digits.length
        ≤ (m + 1) * 10 * tenTo digits.length := Nat.mul_le_mul_right _ hstep
      _ = (m + 1) * (tenTo digits.length * 10) := by rw [Nat.mul_assoc, Nat.mul_comm 10]

theorem mul_tenTo_le_ofDigitChars (digits : List Char) (m : Nat) :
    m * tenTo digits.length ≤ Nat.ofDigitChars 10 digits m := by
  rw [Nat.ofDigitChars_eq_ofDigitChars_zero, Nat.mul_comm]
  exact Nat.le_add_right _ _

/-! ## Significands -/

namespace Scaled

theorem fraction_le {s : Scaled} (hsize : s.significand < UInt64.size) (after : List Char) :
    (s.fraction after).significand < UInt64.size ∧ (s.fraction after).exponent ≤ s.exponent ∧
      s.exponent - after.length ≤ (s.fraction after).exponent ∧
      (s.fraction after).value ≤
        Nat.ofDigitChars 10 after s.significand * 10 ^ (s.exponent - after.length) := by
  induction after generalizing s with
  | nil => simp [fraction, value, hsize]
  | cons c after ih =>
    have hexponent : s.exponent - (c :: after).length = s.exponent - 1 - after.length := by
      rw [List.length_cons]
      omega
    unfold fraction
    dsimp only
    split
    · rename_i hfits
      obtain ⟨hlt, hle, hge, hvalue⟩ := @ih ⟨10 * s.significand + digitValue c, s.exponent - 1⟩ hfits
      rw [Nat.ofDigitChars_cons, hexponent]
      exact ⟨hlt, hle.trans (by dsimp only; omega), hge, hvalue⟩
    · refine ⟨hsize, le_rfl, by omega, ?_⟩
      have hdigits := mul_tenTo_le_ofDigitChars (c :: after) s.significand
      calc (s.significand : ℚ) * 10 ^ s.exponent
          = (s.significand * tenTo (c :: after).length : Nat) *
              10 ^ (s.exponent - (c :: after).length) := by
            rw [Nat.cast_mul, cast_tenTo, mul_assoc, ← zpow_natCast, ← zpow_add₀ (by norm_num),
              add_sub_cancel]
        _ ≤ Nat.ofDigitChars 10 (c :: after) s.significand *
              10 ^ (s.exponent - (c :: after).length) := by
            refine mul_le_mul_of_nonneg_right ?_ (by positivity)
            exact_mod_cast hdigits

theorem fraction_eq {s : Scaled} (after : List Char)
    (h : Nat.ofDigitChars 10 after s.significand < UInt64.size) :
    s.fraction after = ⟨Nat.ofDigitChars 10 after s.significand, s.exponent - after.length⟩ := by
  induction after generalizing s with
  | nil => simp [fraction]
  | cons c after ih =>
    rw [Nat.ofDigitChars_cons] at h ⊢
    have hfits : 10 * s.significand + digitValue c < UInt64.size :=
      (le_ofDigitChars after _).trans_lt h
    have hexponent : s.exponent - (c :: after).length = s.exponent - 1 - after.length := by
      rw [List.length_cons]
      omega
    unfold fraction
    dsimp only
    rw [if_pos hfits, hexponent]
    exact ih h

end Scaled

theorem ofDigits_eq {before : List Char} (hbefore : ∀ c ∈ before, isDigit c = true)
    (hlength : before.length ≤ 16) (after : List Char) :
    Scaled.ofDigits before after = (Scaled.mk (Nat.ofDigitChars 10 before 0) 0).fraction after ∧
      Nat.ofDigitChars 10 before 0 < UInt64.size := by
  have hpow : tenTo before.length ≤ tenTo 16 := tenTo_mono hlength
  have hlarge : tenTo 16 < UInt64.size := by decide
  have hlt := ofDigitChars_lt hbefore 0
  have hfits : Nat.ofDigitChars 10 before 0 < UInt64.size := by omega
  exact ⟨by rw [Scaled.ofDigits, foldl_integerDigit _ _ hfits], hfits⟩

/-- **A significand and an exponent stand for a decimal**: they are not more than it, and they are the
decimal itself, or a whole number with one digit after the point, if its digits fit into 64 bits. -/
structure Scaled.Renders (s : Scaled) (d : Decimal) : Prop where
  significand_lt : s.significand < UInt64.size
  value_le : s.value ≤ d.value
  exact : d.digits < UInt64.size → s = ⟨d.digits, d.exponent⟩ ∨
    ∃ k : Nat, d.exponent = k ∧ s = ⟨d.digits * tenTo (k + 1), -1⟩

theorem Scaled.value_whole (n k : Nat) :
    (Scaled.mk (n * tenTo (k + 1)) (-1)).value = n * 10 ^ k := by
  rw [Scaled.value, Nat.cast_mul, cast_tenTo, pow_succ, zpow_neg_one]
  field_simp

/-- **The digits of a decimal** with a point among them stand for it. -/
theorem renders_ofDigits {before after : List Char} {d : Decimal} (shift : Int)
    (hbefore : ∀ c ∈ before, isDigit c = true) (hlength : before.length ≤ 16)
    (hdigits : Nat.ofDigitChars 10 (before ++ after) 0 = d.digits)
    (hexponent : shift - after.length = d.exponent) :
    (Scaled.mk (Scaled.ofDigits before after).significand
      ((Scaled.ofDigits before after).exponent + shift)).Renders d := by
  obtain ⟨heq, hfits⟩ := ofDigits_eq hbefore hlength after
  rw [Nat.ofDigitChars_append] at hdigits
  rw [heq]
  obtain ⟨hlt, -, -, hle⟩ := Scaled.fraction_le (s := ⟨Nat.ofDigitChars 10 before 0, 0⟩) hfits after
  rw [hdigits] at hle
  refine ⟨hlt, ?_, fun hsize => .inl ?_⟩
  · calc ((Scaled.mk _ _).fraction after).significand *
          (10 : ℚ) ^ (((Scaled.mk _ _).fraction after).exponent + shift)
        = ((Scaled.mk _ _).fraction after).value * 10 ^ shift := by
          rw [zpow_add₀ (by norm_num), Scaled.value, mul_assoc]
      _ ≤ d.digits * 10 ^ ((0 : ℤ) - after.length) * 10 ^ shift :=
          mul_le_mul_of_nonneg_right hle (by positivity)
      _ = d.value := by
          rw [mul_assoc, ← zpow_add₀ (by norm_num), Decimal.value, ← hexponent]
          congr 2
          ring
  · rw [Scaled.fraction_eq after (hdigits.trans_lt hsize)]
    dsimp only
    rw [hdigits, ← hexponent]
    congr 1
    ring

/-! ## Texts -/

/-- Digits that can stand before a point. -/
structure Leading (before : List Char) : Prop where
  digits : ∀ c ∈ before, isDigit c = true
  ne_nil : before ≠ []
  lead : before = ['0'] ∨ before.head? ≠ some '0'

theorem takeWhile_digits {digits rest : List Char} (h : ∀ c ∈ digits, isDigit c = true)
    (hrest : ∀ c ∈ rest.head?, isDigit c = false) :
    (digits ++ rest).takeWhile isDigit = digits ∧ (digits ++ rest).dropWhile isDigit = rest := by
  rw [takeWhile_append_of_head hrest, dropWhile_append_of_head hrest,
    List.takeWhile_eq_self_iff.2 h, List.dropWhile_eq_nil_iff.2 h]
  exact ⟨rfl, rfl⟩

theorem readNumeral_leading (negative : Bool) {before rest : List Char} (h : Leading before)
    (hrest : ∀ c ∈ rest.head?, isDigit c = false) :
    readNumeral negative (before ++ rest) = readFraction negative before rest := by
  obtain ⟨htake, hdrop⟩ := takeWhile_digits h.digits hrest
  obtain ⟨c, s, rfl⟩ := List.exists_cons_of_ne_nil h.ne_nil
  have hdigit : isDigit c = true := h.digits c List.mem_cons_self
  have hlead : (decide (c = '0') && (s ++ rest).head?.any isDigit) = false := by
    obtain heq | hne := h.lead
    · obtain ⟨-, rfl⟩ := List.cons.inj heq
      cases rest with
      | nil => simp
      | cons d rest => simp [hrest d rfl]
    · have hc : c ≠ '0' := fun e => hne (by rw [e]; rfl)
      simp [hc]
  rw [List.cons_append] at htake hdrop ⊢
  rw [readNumeral, htake, hdrop, hlead, hdigit]
  rfl

theorem exponentValue_digits {digits : List Char} (h : ∀ c ∈ digits, isDigit c = true) {m : Nat}
    (hlt : Nat.ofDigitChars 10 digits m < twoTo 31) :
    exponentValue m digits = .ok (Nat.ofDigitChars 10 digits m) := by
  induction digits generalizing m with
  | nil => rw [exponentValue, Nat.ofDigitChars_nil]
  | cons c digits ih =>
    obtain ⟨hc, hdigits⟩ := List.forall_mem_cons.1 h
    rw [Nat.ofDigitChars_cons] at hlt ⊢
    have hstep : 10 * m + digitValue c < twoTo 31 := (le_ofDigitChars digits _).trans_lt hlt
    rw [exponentValue, if_pos hc]
    dsimp only
    rw [if_pos hstep]
    exact ih hdigits hlt

theorem readScale_exponent (negative : Bool) (s : Scaled) {top : Int}
    (htop : top.natAbs < twoTo 31) :
    readScale negative s (['e', if top < 0 then '-' else '+'] ++ numeral top.natAbs) =
      some (.ofScaled negative ⟨s.significand, s.exponent + top⟩ []) := by
  have hvalue : exponentValue 0 (numeral top.natAbs) = .ok top.natAbs := by
    have hdigits : Nat.ofDigitChars 10 (numeral top.natAbs) 0 = top.natAbs :=
      digitsValue_numeral top.natAbs
    rw [exponentValue_digits (fun c => isDigit_of_mem_numeral) (by rwa [hdigits]), hdigits]
  have hread (raises : Bool) : readExponent negative s raises (numeral top.natAbs) =
      .ofScaled negative ⟨s.significand,
        if raises then s.exponent + top.natAbs else s.exponent - top.natAbs⟩ [] := by
    obtain ⟨c, rest, hcs⟩ := List.exists_cons_of_ne_nil (numeral_ne_nil top.natAbs)
    have hdigit : isDigit c = true :=
      isDigit_of_mem_numeral (n := top.natAbs) (by rw [hcs]; exact List.mem_cons_self)
    have hdrop := dropWhile_numeral top.natAbs
    rw [hcs] at hvalue hdrop ⊢
    rw [readExponent, hdigit, hdrop, hvalue]
    rfl
  by_cases hneg : top < 0
  · have habs : s.exponent - top.natAbs = s.exponent + top := by omega
    rw [if_pos hneg]
    exact congrArg some ((hread false).trans (by rw [if_neg (by decide), habs]))
  · have habs : s.exponent + top.natAbs = s.exponent + top := by omega
    rw [if_neg hneg]
    exact congrArg some ((hread true).trans (by rw [if_pos rfl, habs]))

theorem readFraction_point (negative : Bool) (before : List Char) {after : List Char}
    (hafter : ∀ c ∈ after, isDigit c = true) (hne : after ≠ []) (rest : List Char)
    (hrest : ∀ c ∈ rest.head?, isDigit c = false) :
    readFraction negative before ('.' :: (after ++ rest)) =
      (readScale negative (Scaled.ofDigits before after) rest).getD
        (.ofScaled negative (Scaled.ofDigits before after) rest) := by
  obtain ⟨htake, hdrop⟩ := takeWhile_digits hafter hrest
  obtain ⟨c, s, rfl⟩ := List.exists_cons_of_ne_nil hne
  have hdigit : isDigit c = true := hafter c List.mem_cons_self
  rw [List.cons_append] at htake hdrop ⊢
  simp only [readFraction, hdigit, htake, hdrop, Bool.not_true, Bool.false_eq_true, if_false]

theorem exponent_isDigit (top : Int) : ∀ c ∈
    (['e', if top < 0 then '-' else '+'] ++ numeral top.natAbs).head?, isDigit c = false := by
  simp [isDigit]

section Layouts

variable (negative : Bool) {d : Decimal}

theorem leading_take {n k : Nat} (hk : 0 < k) : Leading ((numeral n).take k) where
  digits c hc := isDigit_of_mem_numeral (List.mem_of_mem_take hc)
  ne_nil := by
    rw [ne_eq, List.take_eq_nil_iff, not_or]
    exact ⟨by omega, numeral_ne_nil n⟩
  lead := by
    obtain rfl | hpos := Nat.eq_zero_or_pos n
    · left
      have hzero : numeral 0 = ['0'] := rfl
      rw [hzero, List.take_of_length_le (by exact hk)]
    · right
      rw [List.head?_take, if_neg (by omega)]
      exact head?_numeral_ne_zero hpos

theorem isDigit_of_mem_replicate {k : Nat} : ∀ c ∈ List.replicate k '0', isDigit c = true := by
  intro c hc
  rw [List.eq_of_mem_replicate hc]
  rfl

theorem readNumeral_point {before : List Char} (after : List Char) (hbefore : Leading before)
    (hlength : before.length ≤ 16) (hafter : ∀ c ∈ after, isDigit c = true) (hne : after ≠ [])
    (hdigits : Nat.ofDigitChars 10 (before ++ after) 0 = d.digits)
    (hexponent : -(after.length : Int) = d.exponent) :
    ∃ s, readNumeral negative (before ++ '.' :: after) = .ofScaled negative s [] ∧ s.Renders d := by
  refine ⟨_, ?_, renders_ofDigits 0 hbefore.digits hlength hdigits (by omega)⟩
  have hread := readFraction_point negative before hafter hne [] (by simp)
  rw [List.append_nil] at hread
  rw [readNumeral_leading negative hbefore (by simp [isDigit]), hread, add_zero]
  rfl

theorem leading_whole {n k : Nat} (hzero : n = 0 → k = 0) :
    Leading (numeral n ++ List.replicate k '0') where
  digits c hc := by
    obtain hc | hc := List.mem_append.1 hc
    · exact isDigit_of_mem_numeral hc
    · exact isDigit_of_mem_replicate c hc
  ne_nil := by simp [numeral_ne_nil]
  lead := by
    obtain rfl | hpos := Nat.eq_zero_or_pos n
    · rw [hzero rfl]
      exact .inl rfl
    · right
      rw [List.head?_append_of_ne_nil _ (numeral_ne_nil n)]
      exact head?_numeral_ne_zero hpos

theorem readNumeral_whole {k : Nat} (hzero : d.digits = 0 → k = 0) (hk : d.exponent = k)
    (hlength : (numeral d.digits).length + k ≤ 16) :
    ∃ s, readNumeral negative (numeral d.digits ++ List.replicate k '0' ++ ['.', '0']) =
      .ofScaled negative s [] ∧ s.Renders d := by
  have hbefore := leading_whole hzero
  have hlen : (numeral d.digits ++ List.replicate k '0').length ≤ 16 := by
    rwa [List.length_append, List.length_replicate]
  have hdigits : Nat.ofDigitChars 10 (numeral d.digits ++ List.replicate k '0') 0 =
      d.digits * tenTo k := by
    rw [Nat.ofDigitChars_append, Nat.ofDigitChars_replicate_zero, Nat.mul_comm]
    exact congrArg (· * tenTo k) (digitsValue_numeral d.digits)
  have hten : d.digits * tenTo (k + 1) = 10 * (d.digits * tenTo k) := by
    have hpow : tenTo (k + 1) = tenTo k * 10 := Nat.pow_succ 10 _
    rw [hpow, ← Nat.mul_assoc, Nat.mul_comm]
  have hfits : d.digits * tenTo (k + 1) < UInt64.size := by
    have hlt := ofDigitChars_lt hbefore.digits 0
    have hpow : tenTo (numeral d.digits ++ List.replicate k '0').length ≤ tenTo 16 := tenTo_mono hlen
    have hlarge : 10 * tenTo 16 < UInt64.size := by decide
    rw [hdigits, Nat.zero_add, Nat.one_mul] at hlt
    rw [hten]
    exact (Nat.mul_lt_mul_of_pos_left (hlt.trans_le hpow) (by decide)).trans hlarge
  have hread : Scaled.ofDigits (numeral d.digits ++ List.replicate k '0') ['0'] =
      ⟨d.digits * tenTo (k + 1), -1⟩ := by
    have hzero : Nat.ofDigitChars 10 ['0'] (d.digits * tenTo k) = d.digits * tenTo (k + 1) := by
      rw [hten, Nat.ofDigitChars_cons, Nat.ofDigitChars_nil]
      rfl
    rw [(ofDigits_eq hbefore.digits hlen ['0']).1, hdigits,
      Scaled.fraction_eq ['0'] (hzero.trans_lt hfits), hzero]
    rfl
  have hafter : ∀ c ∈ ['0'], isDigit c = true := by simp [isDigit]
  have hpoint := readFraction_point negative (numeral d.digits ++ List.replicate k '0') hafter
    (List.cons_ne_nil _ _) [] (by simp)
  rw [hread, readScale, Option.getD_none, List.append_nil] at hpoint
  refine ⟨⟨d.digits * tenTo (k + 1), -1⟩, ?_, hfits, le_of_eq ?_, fun _ => .inr ⟨k, hk, rfl⟩⟩
  · exact (readNumeral_leading negative hbefore (by simp [isDigit])).trans hpoint
  · rw [Scaled.value_whole, Decimal.value, hk, zpow_natCast]

/-- **A decimal without an exponent** is read, if it has at most sixteen digits before the point. -/
theorem readNumeral_positional {top : Int} (hzero : d.digits = 0 → d.exponent = 0)
    (htop : top = d.exponent + (numeral d.digits).length - 1) (hle : top ≤ 15) :
    ∃ s, readNumeral negative (positionalDigits jsonLayout.wholeMark (numeral d.digits) top) =
      .ofScaled negative s [] ∧ s.Renders d := by
  have hlength : 0 < (numeral d.digits).length := List.length_pos_iff.2 (numeral_ne_nil _)
  have hvalue : Nat.ofDigitChars 10 (numeral d.digits) 0 = d.digits := digitsValue_numeral _
  unfold positionalDigits
  dsimp only
  split
  · -- all digits stand after the point
    have hbefore : Leading ['0'] := ⟨by simp [isDigit], by simp, .inl rfl⟩
    refine readNumeral_point negative (List.replicate (-top - 1).toNat '0' ++ numeral d.digits)
      hbefore (by decide) ?_ ?_ ?_ ?_
    · intro c hc
      obtain hc | hc := List.mem_append.1 hc
      · exact isDigit_of_mem_replicate c hc
      · exact isDigit_of_mem_numeral hc
    · simp [numeral_ne_nil]
    · rw [Nat.ofDigitChars_append, Nat.ofDigitChars_append, Nat.ofDigitChars_replicate_zero]
      exact hvalue
    · rw [List.length_append, List.length_replicate]
      omega
  · split
    · rename_i hwhole
      obtain ⟨k, hk⟩ : ∃ k : Nat, d.exponent = k := ⟨d.exponent.toNat, by omega⟩
      have hzeros : top.toNat + 1 - (numeral d.digits).length = k := by omega
      rw [hzeros]
      refine readNumeral_whole negative (fun h => ?_) hk (by omega)
      have := hzero h
      omega
    · -- the point stands among the digits
      have hpoint := readNumeral_point negative (d := d) ((numeral d.digits).drop (top.toNat + 1))
        (leading_take (n := d.digits) (k := top.toNat + 1) (by omega))
        ((List.length_take_le ..).trans (by omega))
        (fun c hc => isDigit_of_mem_numeral (List.mem_of_mem_drop hc)) ?_ ?_ ?_
      · rwa [List.append_assoc]
      · rw [ne_eq, List.drop_eq_nil_iff]
        omega
      · rw [List.take_append_drop, hvalue]
      · rw [List.length_drop]
        omega

theorem readNumeral_scientific {top : Int} (htop : top = d.exponent + (numeral d.digits).length - 1)
    (hlt : top.natAbs < twoTo 31) :
    ∃ s, readNumeral negative (scientificDigits (numeral d.digits) top) =
      .ofScaled negative s [] ∧ s.Renders d := by
  have hlength : 0 < (numeral d.digits).length := List.length_pos_iff.2 (numeral_ne_nil _)
  have hvalue : Nat.ofDigitChars 10 (numeral d.digits) 0 = d.digits := digitsValue_numeral _
  have hbefore := leading_take (n := d.digits) (k := 1) (by decide)
  have hlen : ((numeral d.digits).take 1).length ≤ 16 := (List.length_take_le ..).trans (by decide)
  have hdigits : Nat.ofDigitChars 10 ((numeral d.digits).take 1 ++ (numeral d.digits).drop 1) 0 =
      d.digits := by rw [List.take_append_drop, hvalue]
  have hrenders := renders_ofDigits top hbefore.digits hlen hdigits
    (by rw [List.length_drop]; omega)
  refine ⟨_, ?_, hrenders⟩
  have hscale := readScale_exponent negative
    (Scaled.ofDigits ((numeral d.digits).take 1) ((numeral d.digits).drop 1)) hlt
  unfold scientificDigits
  split
  · rename_i hone
    have hnil : (numeral d.digits).drop 1 = [] := List.drop_eq_nil_iff.2 hone
    rw [hnil] at hscale ⊢
    rw [List.append_nil, List.append_assoc, readNumeral_leading negative hbefore (exponent_isDigit top)]
    unfold readFraction
    split
    · rename_i hdot
      cases hdot
    · dsimp only
      rw [hscale]
      rfl
  · rename_i hmany
    have hafter : ∀ c ∈ (numeral d.digits).drop 1, isDigit c = true :=
      fun c hc => isDigit_of_mem_numeral (List.mem_of_mem_drop hc)
    have hpoint := readFraction_point negative ((numeral d.digits).take 1) hafter
      (by rw [ne_eq, List.drop_eq_nil_iff]; omega) _ (exponent_isDigit top)
    rw [hscale] at hpoint
    rw [List.append_assoc, List.append_assoc, readNumeral_leading negative hbefore (by simp [isDigit])]
    exact hpoint

end Layouts

end CloudDiagram.Json
