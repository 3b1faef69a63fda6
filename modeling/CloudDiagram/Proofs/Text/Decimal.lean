import CloudDiagram.Text.Decimal

/-!
# Decimal numerals read back

* `digitsValue_numeral`: the digits of a number denote it, so that numerals are injective;
* `isDigit_of_mem_numeral`, `head?_numeral_ne_zero`: only digits, and no leading zero;
* `Spells`, **`word?_eq_some_iff`**: the texts of a natural number, and the number that is read.
-/

namespace CloudDiagram.Text

theorem isDigit_of_mem_numeral {n : Nat} {c : Char} (h : c ∈ numeral n) : isDigit c = true :=
  Nat.isDigit_of_mem_toDigits (by decide) (by decide) h

theorem numeral_ne_nil (n : Nat) : numeral n ≠ [] := Nat.toDigits_ne_nil

theorem digitsValue_numeral (n : Nat) : digitsValue (numeral n) = n :=
  Nat.ofDigitChars_ten_toDigits

theorem numeral_injective {m n : Nat} (h : numeral m = numeral n) : m = n := by
  rw [← digitsValue_numeral m, h, digitsValue_numeral]

theorem head?_numeral_ne_zero {n : Nat} (h : 0 < n) : (numeral n).head? ≠ some '0' := by
  induction n using Nat.strongRecOn with
  | _ n ih =>
    rw [numeral, Nat.toDigits_eq_if (by decide)]
    split
    · simp only [List.head?_cons, ne_eq, Option.some.injEq, Nat.digitChar_eq_zero]
      omega
    · rw [List.head?_append, Option.or_of_isSome (by simp)]
      exact ih (n / 10) (by omega) (by omega)

/-! ## Reading -/

/-- **A text spells a number**: digits that denote it, after an optional plus sign. -/
def Spells (s : List Char) (n : Nat) : Prop :=
  ∃ digits, (s = digits ∨ s = '+' :: digits) ∧ digits ≠ [] ∧ (∀ c ∈ digits, isDigit c = true) ∧
    digitsValue digits = n

theorem natural?_eq_some_iff {s : List Char} {n : Nat} :
    natural? s = some n ↔ s ≠ [] ∧ (∀ c ∈ s, isDigit c = true) ∧ digitsValue s = n := by
  unfold natural?
  split
  · rename_i hnot
    simp only [Bool.or_eq_true, List.isEmpty_iff, Bool.not_eq_true', List.all_eq_false] at hnot
    constructor
    · intro h
      cases h
    · rintro ⟨hne, hdigits, -⟩
      obtain hnil | ⟨c, hc, hdigit⟩ := hnot
      · exact absurd hnil hne
      · exact absurd (hdigits c hc) hdigit
  · rename_i hyes
    simp only [Bool.or_eq_true, List.isEmpty_iff, Bool.not_eq_true', not_or, Bool.not_eq_false,
      List.all_eq_true] at hyes
    rw [Option.some.injEq]
    exact ⟨fun h => ⟨hyes.1, hyes.2, h⟩, fun h => h.2.2⟩

theorem spells_iff {s : List Char} {n : Nat} :
    natural? (match s with | '+' :: digits => digits | digits => digits) = some n ↔ Spells s n := by
  rw [natural?_eq_some_iff]
  constructor
  · intro h
    refine ⟨_, ?_, h⟩
    split
    · exact .inr rfl
    · exact .inl rfl
  · rintro ⟨digits, rfl | rfl, hne, hdigits, hvalue⟩
    · split
      · -- a plus sign is not a digit
        exact absurd (hdigits '+' List.mem_cons_self) (by decide)
      · exact ⟨hne, hdigits, hvalue⟩
    · exact ⟨hne, hdigits, hvalue⟩

/-- **A word is read from the texts that spell it**, and from no others. -/
theorem word?_eq_some_iff {s : String} {w : UInt64} :
    word? s = some w ↔ Spells s.toList w.toNat := by
  rw [← spells_iff, word?]
  simp only [Option.bind_eq_bind, Option.bind_eq_some_iff]
  constructor
  · rintro ⟨n, hn, hw⟩
    split at hw
    · rename_i hlt
      cases hw
      rw [UInt64.toNat_ofNat_of_lt' hlt]
      exact hn
    · cases hw
  · intro h
    exact ⟨_, h, by rw [if_pos w.toNat_lt_size, UInt64.ofNat_toNat]⟩

end CloudDiagram.Text
