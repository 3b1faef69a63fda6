import CloudDiagram.Text.Blank

/-!
# ASCII letters and digits

* `isDigit_iff`, `isAlphanumeric_iff`: digits and letters by their codes;
* `toNat_asciiLower`, `asciiLower_asciiLower`: the small letter of a capital.
-/

namespace CloudDiagram.Text

variable {c : Char}

theorem isDigit_iff : isDigit c = true ↔ 0x30 ≤ c.toNat ∧ c.toNat ≤ 0x39 := by
  simp only [isDigit, Bool.and_eq_true, decide_eq_true_eq]
  exact Iff.rfl

theorem isAlphanumeric_iff : isAlphanumeric c = true ↔ (0x30 ≤ c.toNat ∧ c.toNat ≤ 0x39) ∨
    (0x61 ≤ c.toNat ∧ c.toNat ≤ 0x7A) ∨ (0x41 ≤ c.toNat ∧ c.toNat ≤ 0x5A) := by
  simp only [isAlphanumeric, Bool.or_eq_true, isDigit_iff, Bool.and_eq_true, decide_eq_true_eq,
    or_assoc]
  exact Iff.rfl

/-! ## Lower case -/

theorem toNat_ofNat {n : Nat} (h : n.isValidChar) : (Char.ofNat n).toNat = n := by
  rw [Char.ofNat, dif_pos h]
  rfl

theorem toNat_asciiLower (c : Char) :
    (asciiLower c).toNat = if 65 ≤ c.toNat ∧ c.toNat ≤ 90 then c.toNat + 32 else c.toNat := by
  simp only [asciiLower, Bool.and_eq_true, decide_eq_true_eq]
  change (if 65 ≤ c.toNat ∧ c.toNat ≤ 90 then _ else c).toNat = _
  split
  · exact toNat_ofNat (.inl (by omega))
  · rfl

theorem asciiLower_asciiLower (c : Char) : asciiLower (asciiLower c) = asciiLower c := by
  rw [← Char.toNat_inj, toNat_asciiLower, toNat_asciiLower]
  split
  · rw [if_neg (by omega)]
  · rfl

theorem map_asciiLower_map_asciiLower (s : List Char) :
    (s.map asciiLower).map asciiLower = s.map asciiLower := by
  rw [List.map_map]
  exact List.map_congr_left fun c _ => asciiLower_asciiLower c

end CloudDiagram.Text
