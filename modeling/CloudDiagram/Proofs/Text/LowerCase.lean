import CloudDiagram.Proofs.Text.Ascii
import CloudDiagram.Text.LowerCase

/-!
# Texts in lower case

* `lowerRuns_settled`: the small letter of a capital is no capital, by the table;
* `lowerChar_of_not_capital`, `lowerChar_of_ascii`: what lower case keeps;
* **`mem_lower`**: each character of a text in lower case stays as it is, so that the place of a sigma no
  longer matters;
* `lower_eq_self`: a text of such characters is kept;
* `isBlank_of_mem_lower`, `lower_eq_nil_iff`: lower case makes no blanks, and loses no character.
-/

namespace CloudDiagram.Text

variable {c d : Char} {l : List Char} {n : Nat} {r : CaseRun}

/-! ## The table -/

/-- The code points of a run. -/
def CaseRun.codes (r : CaseRun) : List Nat :=
  List.range' r.first ((r.last - r.first) / r.step + 1) r.step

theorem CaseRun.mem_codes (h : r.holds n = true) : n ∈ r.codes := by
  simp only [holds, Bool.and_eq_true, decide_eq_true_eq, beq_iff_eq] at h
  obtain ⟨⟨hfirst, hlast⟩, hstep⟩ := h
  refine List.mem_range'.2 ⟨(n - r.first) / r.step, ?_, ?_⟩
  · exact Nat.lt_succ_of_le (Nat.div_le_div_right (Nat.sub_le_sub_right hlast _))
  · have hsplit := Nat.div_add_mod (n - r.first) r.step
    omega

/-- The code points of all characters that lower case changes. -/
def capitalCodes : List Nat := 0x130 :: lowerRuns.flatMap CaseRun.codes

/-- Numbers as the bits of one number. -/
def bitsOf (codes : List Nat) : Nat := codes.foldr (fun n bits => bits ||| 1 <<< n) 0

theorem testBit_bitsOf {codes : List Nat} : (bitsOf codes).testBit n = true ↔ n ∈ codes := by
  induction codes with
  | nil => simp [bitsOf]
  | cons m codes ih =>
    rw [bitsOf, List.foldr_cons, ← bitsOf, Nat.testBit_or, Bool.or_eq_true, ih, Nat.one_shiftLeft,
      Nat.testBit_two_pow, decide_eq_true_eq, List.mem_cons, or_comm, eq_comm]

/-- **The small letter of a capital is no capital.** -/
theorem lowerRuns_settled :
    ∀ r ∈ lowerRuns, ∀ n ∈ r.codes, (n + r.distance).toNat ∉ capitalCodes := by
  -- a bit for each capital: comparing the code points pair by pair takes the kernel far longer
  have hbits : ∀ r ∈ lowerRuns, ∀ n ∈ r.codes,
      (bitsOf capitalCodes).testBit (n + r.distance).toNat = false := by
    decide +kernel
  intro r hr n hn hmem
  rw [← testBit_bitsOf, hbits r hr n hn] at hmem
  cases hmem

/-- A code point in the ranges of the small letters, where there are no blanks, controls or surrogates. -/
def IsInkCode (n : Nat) : Prop :=
  (0x61 ≤ n ∧ n ≤ 0x7A) ∨ (0xA1 ≤ n ∧ n ≤ 0x167F) ∨ (0x1681 ≤ n ∧ n ≤ 0x1FFF) ∨
    (0x2060 ≤ n ∧ n ≤ 0x2FFF) ∨ (0x3001 ≤ n ∧ n ≤ 0xD7FF) ∨ (0xE000 ≤ n ∧ n ≤ 0xFFFD) ∨
    (0x10000 ≤ n ∧ n ≤ 0x10FFFF)

set_option maxRecDepth 4000 in
theorem lowerRuns_ink : ∀ r ∈ lowerRuns,
    (0x61 ≤ r.first + r.distance ∧ r.last + r.distance ≤ 0x7A) ∨
    (0xA1 ≤ r.first + r.distance ∧ r.last + r.distance ≤ 0x167F) ∨
    (0x1681 ≤ r.first + r.distance ∧ r.last + r.distance ≤ 0x1FFF) ∨
    (0x2060 ≤ r.first + r.distance ∧ r.last + r.distance ≤ 0x2FFF) ∨
    (0x3001 ≤ r.first + r.distance ∧ r.last + r.distance ≤ 0xD7FF) ∨
    (0xE000 ≤ r.first + r.distance ∧ r.last + r.distance ≤ 0xFFFD) ∨
    (0x10000 ≤ r.first + r.distance ∧ r.last + r.distance ≤ 0x10FFFF) := by
  decide

set_option maxRecDepth 4000 in
/-- Among the ASCII characters only the capital letters stand in a run. -/
theorem lowerRuns_ascii : ∀ r ∈ lowerRuns, 0x41 ≤ r.first ∧ (r.last ≤ 0x5A ∨ 0x80 ≤ r.first) := by
  decide

theorem isInkCode_small (hr : r ∈ lowerRuns) (hn : r.holds n = true) :
    IsInkCode (n + r.distance).toNat := by
  have hink := lowerRuns_ink r hr
  simp only [CaseRun.holds, Bool.and_eq_true, decide_eq_true_eq] at hn
  unfold IsInkCode
  omega

theorem isBlank_of_isInkCode (h : IsInkCode c.toNat) : isBlank c = false := by
  unfold IsInkCode at h
  rw [Bool.eq_false_iff]
  simp only [isBlank, ne_eq, Bool.or_eq_true, Bool.and_eq_true, decide_eq_true_eq, beq_iff_eq]
  omega

/-! ## One character -/

/-- **What becomes of a character**: the dotted capital I becomes two, another capital becomes its small
letter, and any other character is kept. -/
theorem lowerChar_cases (c : Char) :
    lowerChar c = ['i', '\u0307'] ∨
      (∃ d, lowerChar c = [d] ∧ IsInkCode d.toNat ∧ d.toNat ∉ capitalCodes) ∨ lowerChar c = [c] := by
  unfold lowerChar
  split
  · exact .inl rfl
  · right
    split
    · rename_i r hfind
      have hr := List.mem_of_find?_eq_some hfind
      have hholds := List.find?_some hfind
      have hink := isInkCode_small hr hholds
      have hcode : (Char.ofNat (c.toNat + r.distance).toNat).toNat = (c.toNat + r.distance).toNat := by
        unfold IsInkCode at hink
        exact toNat_ofNat (by unfold Nat.isValidChar; omega)
      refine .inl ⟨_, rfl, ?_⟩
      rw [hcode]
      exact ⟨hink, lowerRuns_settled r hr _ (CaseRun.mem_codes hholds)⟩
    · exact .inr rfl

theorem lowerChar_ne_nil (c : Char) : lowerChar c ≠ [] := by
  obtain h | ⟨d, h, -⟩ | h := lowerChar_cases c <;> rw [h] <;> exact List.cons_ne_nil _ _

theorem lowerChar_eq_self (hdotted : c.toNat ≠ 0x130)
    (hruns : ∀ r ∈ lowerRuns, ¬ r.holds c.toNat = true) : lowerChar c = [c] := by
  rw [lowerChar, beq_false_of_ne hdotted, List.find?_eq_none.2 hruns]
  rfl

theorem lowerChar_of_not_capital (h : c.toNat ∉ capitalCodes) : lowerChar c = [c] := by
  refine lowerChar_eq_self (fun hdotted => h ?_) fun r hr hholds => h ?_
  · exact hdotted ▸ List.mem_cons_self
  · exact List.mem_cons_of_mem _ (List.mem_flatMap.2 ⟨r, hr, CaseRun.mem_codes hholds⟩)

theorem lowerChar_of_ascii (h : c.toNat < 0x41 ∨ 0x5A < c.toNat ∧ c.toNat < 0x80) :
    lowerChar c = [c] := by
  refine lowerChar_eq_self (by omega) fun r hr hholds => ?_
  have hfar := lowerRuns_ascii r hr
  simp only [CaseRun.holds, Bool.and_eq_true, decide_eq_true_eq] at hholds
  omega

/-- The small letters that stand outside the table: of the dotted capital I, and the two of a sigma. -/
theorem lowerChar_special (h : d ∈ ['i', '\u0307', 'σ', 'ς']) :
    lowerChar d = [d] ∧ IsInkCode d.toNat := by
  simp only [List.mem_cons, List.not_mem_nil, or_false] at h
  unfold IsInkCode
  obtain rfl | rfl | rfl | rfl := h <;> decide

/-- **What a character becomes** stays in lower case; it is a small letter or the character as it is. -/
theorem mem_lowerChar (h : d ∈ lowerChar c) : lowerChar d = [d] ∧ (IsInkCode d.toNat ∨ d = c) := by
  obtain hdotted | ⟨small, hsmall, hink, hcapital⟩ | hself := lowerChar_cases c
  · rw [hdotted] at h
    exact (lowerChar_special (List.mem_append_left ['σ', 'ς'] h)).imp_right .inl
  · rw [hsmall] at h
    rw [List.mem_singleton.1 h]
    exact ⟨lowerChar_of_not_capital hcapital, .inl hink⟩
  · rw [hself] at h
    rw [List.mem_singleton.1 h]
    exact ⟨hself, .inr rfl⟩

/-! ## Texts -/

theorem mem_lowerAfter {before : List Char} (h : d ∈ lowerAfter before l) :
    lowerChar d = [d] ∧ (IsInkCode d.toNat ∨ d ∈ l) := by
  induction l generalizing before with
  | nil => cases h
  | cons c rest ih =>
    rw [lowerAfter, List.mem_append] at h
    obtain h | h := h
    · split at h
      · refine (lowerChar_special ?_).imp_right .inl
        rw [List.mem_singleton.1 h]
        split <;> decide
      · obtain ⟨hkept, hink | rfl⟩ := mem_lowerChar h
        · exact ⟨hkept, .inl hink⟩
        · exact ⟨hkept, .inr List.mem_cons_self⟩
    · exact (ih h).imp_right fun hd => hd.imp_right (List.mem_cons_of_mem c)

/-- **What a text in lower case consists of**: characters that stay in lower case wherever they stand,
which are small letters or characters of the text. -/
theorem mem_lower (h : d ∈ lower l) : lowerChar d = [d] ∧ (IsInkCode d.toNat ∨ d ∈ l) :=
  mem_lowerAfter h

theorem isBlank_of_mem_lower (h : d ∈ lower l) (hl : ∀ c ∈ l, isBlank c = false) :
    isBlank d = false :=
  (mem_lower h).2.elim isBlank_of_isInkCode (hl d)

theorem lowerAfter_eq_self {before : List Char} (h : ∀ c ∈ l, lowerChar c = [c]) :
    lowerAfter before l = l := by
  induction l generalizing before with
  | nil => rfl
  | cons c rest ih =>
    obtain ⟨hc, hrest⟩ := List.forall_mem_cons.1 h
    have hsigma : (c == 'Σ') = false := by
      refine beq_false_of_ne fun heq => ?_
      rw [heq] at hc
      exact absurd hc (by decide)
    rw [lowerAfter, hsigma, ih hrest, hc]
    rfl

theorem lower_eq_self (h : ∀ c ∈ l, lowerChar c = [c]) : lower l = l := lowerAfter_eq_self h

theorem lowerAfter_eq_nil_iff {before : List Char} : lowerAfter before l = [] ↔ l = [] := by
  cases l with
  | nil => simp [lowerAfter]
  | cons c rest =>
    simp only [lowerAfter, List.append_eq_nil_iff, reduceCtorEq, iff_false, not_and]
    intro hc
    split at hc
    · cases hc
    · exact absurd hc (lowerChar_ne_nil c)

theorem lower_eq_nil_iff : lower l = [] ↔ l = [] := lowerAfter_eq_nil_iff

end CloudDiagram.Text
