import CloudDiagram.Json.Reader

/-!
# Strings read from their text

* `scanString_escapeChar`: one character, escaped or not, is scanned as itself;
* **`scanString_stringChars`**: a string between quotes is scanned to its closing quote.
-/

namespace CloudDiagram.Json

theorem hexValue?_digitChar {d : Nat} (h : d < 16) : hexValue? (Nat.digitChar d) = some d := by
  have hall : ∀ d < 16, hexValue? (Nat.digitChar d) = some d := by decide
  exact hall d h

theorem readEscape_escapeCode {c : Char} (h : c.toNat < 0x20) (rest : List Char) :
    readEscape ((escapeCode c.toNat).tail ++ rest) = .char c rest := by
  have hquad : hexQuad ('0' :: '0' :: Nat.digitChar (c.toNat / 16) ::
      Nat.digitChar (c.toNat % 16) :: rest) = .ok (c.toNat, rest) := by
    have hzero : hexValue? '0' = some 0 := by decide
    simp only [hexQuad, hzero, hexValue?_digitChar (show c.toNat / 16 < 16 by omega),
      hexValue?_digitChar (show c.toNat % 16 < 16 by omega)]
    congr 2
    omega
  have htrailing : isTrailing c.toNat = false := by
    simp only [isTrailing, Bool.and_eq_false_iff, decide_eq_false_iff_not]
    omega
  have hleading : isLeading c.toNat = false := by
    simp only [isLeading, Bool.and_eq_false_iff, decide_eq_false_iff_not]
    omega
  simp only [escapeCode, List.tail_cons, List.cons_append, List.nil_append, readEscape, codeEscape,
    hquad, htrailing, hleading, Bool.false_eq_true, if_false, Char.ofNat_toNat]

theorem scanString_escapeChar (c : Char) (fuel : Nat) (rest : List Char) :
    scanString (fuel + 1) (escapeChar c ++ rest) = (scanString fuel rest).cons c := by
  unfold escapeChar
  split
  case h_8 hquote hbackslash _ _ _ _ _ =>
    split
    · rename_i hlow
      have hescape := readEscape_escapeCode hlow rest
      simp only [escapeCode, List.tail_cons, List.cons_append, List.nil_append] at hescape
      simp [escapeCode, scanString, hescape]
    · rename_i hlow
      simp [scanString, hlow, show c ≠ '"' from hquote, show c ≠ '\\' from hbackslash]
  all_goals simp [scanString, readEscape]

/-- **A string is scanned to its closing quote.** -/
theorem scanString_stringChars (s rest : List Char) {fuel : Nat} (h : s.length < fuel) :
    scanString fuel (s.flatMap escapeChar ++ '"' :: rest) = ⟨s, none, .ok rest⟩ := by
  induction s generalizing fuel with
  | nil =>
    obtain ⟨fuel, rfl⟩ := Nat.exists_eq_add_one.2 (Nat.zero_lt_of_lt h)
    rfl
  | cons c s ih =>
    obtain ⟨fuel, rfl⟩ := Nat.exists_eq_add_one.2 (Nat.zero_lt_of_lt h)
    rw [List.flatMap_cons, List.append_assoc, scanString_escapeChar,
      ih (Nat.lt_of_succ_lt_succ h)]
    rfl

theorem length_le_length_flatMap_escapeChar (s : List Char) :
    s.length ≤ (s.flatMap escapeChar).length := by
  induction s with
  | nil => exact Nat.le_refl _
  | cons c s ih =>
    have hone : 1 ≤ (escapeChar c).length := by
      unfold escapeChar
      split <;> try simp
      split <;> simp [escapeCode]
    rw [List.flatMap_cons, List.length_append, List.length_cons]
    omega

end CloudDiagram.Json
