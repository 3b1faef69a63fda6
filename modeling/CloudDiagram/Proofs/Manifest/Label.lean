import CloudDiagram.Generation.Naming
import CloudDiagram.Proofs.Text.LowerCase
import Mathlib.Data.List.DropRight

/-!
# Labels

* `IsLabel`: small letters, digits and hyphens, with neither end a hyphen;
* `isLabel_dnsLabel`: the name of a cluster object is one, whatever it was made from;
* `IsLabel.append`: labels with a hyphen between them are one;
* `labelChars_append`, `labelChars_eq_self`, `length_labelChars_le`: what becomes of a text in parts;
* `dnsLabel_eq`: the name where nothing has to be cut off.
-/

namespace CloudDiagram

theorem isLabelChar_iff {c : Char} : isLabelChar c = true ↔
    (0x61 ≤ c.toNat ∧ c.toNat ≤ 0x7A) ∨ (0x30 ≤ c.toNat ∧ c.toNat ≤ 0x39) := by
  simp only [isLabelChar, Bool.or_eq_true, Text.isDigit_iff, Bool.and_eq_true, decide_eq_true_eq]
  exact Iff.rfl

/-- **A label**: small letters, digits and hyphens, with neither end a hyphen. -/
structure IsLabel (l : List Char) : Prop where
  nonempty : l ≠ []
  chars : ∀ c ∈ l, isLabelChar c = true ∨ c = '-'
  first : ∀ c ∈ l.head?, isLabelChar c = true
  last : ∀ c ∈ l.getLast?, isLabelChar c = true

theorem head?_eq_of_isPrefix {l m : List Char} (h : l <+: m) (hne : l ≠ []) : l.head? = m.head? := by
  obtain ⟨t, rfl⟩ := h
  obtain ⟨c, rest, rfl⟩ := List.exists_cons_of_ne_nil hne
  rfl

theorem IsLabel.fixed {c : Char} {rest : List Char}
    (h : (c :: rest).all isLabelChar = true) : IsLabel (c :: rest) where
  nonempty := List.cons_ne_nil c rest
  chars d hd := .inl (List.all_eq_true.1 h d hd)
  first d hd := List.all_eq_true.1 h d (List.mem_of_mem_head? hd)
  last d hd := List.all_eq_true.1 h d (List.mem_of_getLast? hd)

theorem IsLabel.append {l m : List Char} (hl : IsLabel l) (hm : IsLabel m) :
    IsLabel (l ++ '-' :: m) where
  nonempty := List.append_ne_nil_of_left_ne_nil hl.nonempty _
  chars := List.forall_mem_append.2 ⟨hl.chars, List.forall_mem_cons.2 ⟨.inr rfl, hm.chars⟩⟩
  first := by
    rw [← head?_eq_of_isPrefix (List.prefix_append l _) hl.nonempty]
    exact hl.first
  last := by
    rw [List.getLast?_append, List.getLast?_cons_of_ne_nil hm.nonempty,
      List.getLast?_eq_some_getLast hm.nonempty, Option.some_or,
      ← List.getLast?_eq_some_getLast hm.nonempty]
    exact hm.last

/-! ## The characters of a label -/

theorem isLabelChar_of_mem_labelChars {mayFollow : Bool} {s : List Char} :
    ∀ c ∈ labelChars mayFollow s, isLabelChar c = true ∨ c = '-' := by
  induction s generalizing mayFollow with
  | nil => exact List.forall_mem_nil _
  | cons c rest ih =>
    unfold labelChars
    split
    · rename_i hc
      exact List.forall_mem_cons.2 ⟨.inl hc, ih⟩
    · split
      · exact List.forall_mem_cons.2 ⟨.inr rfl, ih⟩
      · exact ih

theorem isLabelChar_of_head?_labelChars {s : List Char} :
    ∀ c ∈ (labelChars false s).head?, isLabelChar c = true := by
  induction s with
  | nil => exact fun c hc => absurd hc (Option.not_mem_none c)
  | cons c rest ih =>
    unfold labelChars
    split
    · rename_i hc
      intro d hd
      rw [← Option.some.inj hd]
      exact hc
    · exact ih

/-! ## Hyphens at the end -/

variable {s : List Char}

theorem dropHyphens_isPrefix (s : List Char) : dropHyphens s <+: s := List.rdropWhile_prefix _ _

theorem ne_hyphen_of_getLast?_dropHyphens : ∀ c ∈ (dropHyphens s).getLast?, c ≠ '-' := by
  rintro c hc rfl
  obtain ⟨hne, hlast⟩ := List.mem_getLast?_eq_getLast hc
  exact List.rdropWhile_last_not _ s hne (beq_iff_eq.2 hlast.symm)

theorem dropHyphens_eq_self (h : ∀ c ∈ s.getLast?, c ≠ '-') : dropHyphens s = s := by
  refine List.rdropWhile_eq_self_iff.2 fun hne heq => ?_
  exact h _ (List.getLast_mem_getLast? hne) (eq_of_beq heq)

theorem isLabel_dropHyphens {n : Nat} (hne : dropHyphens ((labelChars false s).take n) ≠ []) :
    IsLabel (dropHyphens ((labelChars false s).take n)) := by
  have htake : (labelChars false s).take n <+: labelChars false s := List.take_prefix n _
  have hstart := (dropHyphens_isPrefix ((labelChars false s).take n)).trans htake
  have hchars := fun c hc => isLabelChar_of_mem_labelChars c (hstart.subset hc)
  refine ⟨hne, hchars, ?_, fun c hc => ?_⟩
  · rw [head?_eq_of_isPrefix hstart hne]
    exact isLabelChar_of_head?_labelChars
  · exact (hchars c (List.mem_of_getLast? hc)).resolve_right (ne_hyphen_of_getLast?_dropHyphens c hc)

/-- **The name of a cluster object is a label**, whatever it was made from. -/
theorem isLabel_dnsLabel (raw : String) : IsLabel (dnsLabel raw).toList := by
  unfold dnsLabel
  split
  · exact .fixed rfl
  · rename_i hne
    rw [String.toList_ofList]
    exact isLabel_dropHyphens hne

/-! ## Texts in parts -/

theorem length_labelChars_le (mayFollow : Bool) (s : List Char) :
    (labelChars mayFollow s).length ≤ s.length := by
  induction s generalizing mayFollow with
  | nil => exact Nat.le_refl 0
  | cons c rest ih =>
    unfold labelChars
    split
    · exact Nat.succ_le_succ (ih true)
    · split
      · exact Nat.succ_le_succ (ih false)
      · exact Nat.le_succ_of_le (ih false)

theorem labelChars_eq_self {mayFollow : Bool} (h : ∀ c ∈ s, isLabelChar c = true) :
    labelChars mayFollow s = s := by
  induction s generalizing mayFollow with
  | nil => rfl
  | cons c rest ih =>
    obtain ⟨hc, hrest⟩ := List.forall_mem_cons.1 h
    rw [labelChars, if_pos hc, ih hrest]

variable {c : Char}

/-- What follows a character that is not kept starts afresh. -/
theorem labelChars_append {mayFollow : Bool} (hc : isLabelChar c = false) (s t : List Char) :
    labelChars mayFollow (s ++ c :: t) = labelChars mayFollow (s ++ [c]) ++ labelChars false t := by
  induction s generalizing mayFollow with
  | nil => cases mayFollow <;> simp [labelChars, hc]
  | cons d s ih =>
    simp only [List.cons_append, labelChars]
    split
    · rw [ih, List.cons_append]
    · split
      · rw [ih, List.cons_append]
      · exact ih

theorem labelChars_isPrefix (mayFollow : Bool) (s t : List Char) :
    labelChars mayFollow s <+: labelChars mayFollow (s ++ t) := by
  induction s generalizing mayFollow with
  | nil => exact List.nil_prefix
  | cons d s ih =>
    simp only [List.cons_append, labelChars]
    split
    · exact List.cons_prefix_cons.2 ⟨rfl, ih _⟩
    · split
      · exact List.cons_prefix_cons.2 ⟨rfl, ih _⟩
      · exact ih _

theorem labelChars_ne_nil (hs : s ≠ []) : labelChars true s ≠ [] := by
  obtain ⟨c, rest, rfl⟩ := List.exists_cons_of_ne_nil hs
  unfold labelChars
  split
  · exact List.cons_ne_nil _ _
  · exact List.cons_ne_nil _ _

/-- A character that is not kept leaves a hyphen, unless nothing is left. -/
theorem getLast?_labelChars {mayFollow : Bool} (hc : isLabelChar c = false) (s : List Char) :
    ∀ d ∈ (labelChars mayFollow (s ++ [c])).getLast?, d = '-' := by
  induction s generalizing mayFollow with
  | nil => cases mayFollow <;> simp [labelChars, hc]
  | cons a s ih =>
    simp only [List.cons_append, labelChars]
    split
    · have hne := labelChars_ne_nil (List.append_ne_nil_of_right_ne_nil s (List.cons_ne_nil c []))
      rw [List.getLast?_cons_of_ne_nil hne]
      exact ih
    · split
      · cases hlist : labelChars false (s ++ [c]) with
        | nil => exact fun d hd => (Option.some.inj hd).symm
        | cons b t =>
          rw [List.getLast?_cons_cons, ← hlist]
          exact ih
      · exact ih

/-- **The name of a cluster object** where nothing has to be cut off. -/
theorem dnsLabel_eq {raw : String} {label : List Char}
    (hlabel : labelChars false (raw.toList.flatMap Text.lowerChar) = label) (hne : label ≠ [])
    (hlength : label.length ≤ 63) (hlast : ∀ c ∈ label.getLast?, c ≠ '-') :
    dnsLabel raw = String.ofList label := by
  unfold dnsLabel
  rw [hlabel, List.take_of_length_le hlength, dropHyphens_eq_self hlast]
  split
  · exact absurd rfl hne
  · rfl

/-! ## Lower case -/

theorem lowerChar_of_isLabelChar (h : isLabelChar c = true ∨ c = '-') : Text.lowerChar c = [c] := by
  refine Text.lowerChar_of_ascii ?_
  obtain h | rfl := h
  · rw [isLabelChar_iff] at h
    omega
  · decide

end CloudDiagram
