import CloudDiagram.Proofs.Generation.Slug
import CloudDiagram.Proofs.Manifest.Label

/-!
# Printable characters

Which characters of a text stay as they are where the text is put into a manifest.

* `Yaml.isPrintable`: the characters that a writer may leave as they are;
* `Yaml.isUnescaped`: the others that are left as they are;
* `PrintableBut`: texts of printable characters but for some others;
* `printableBut_yamlScalar`, `printableBut_commentText`, `printableBut_slug`: what is made of a text has
  the unescaped characters of that text and no others that are not printable.
-/

namespace CloudDiagram.Yaml

open Text

/-- **A character that a writer may leave as it is.** -/
def isPrintable (c : Char) : Bool :=
  let n := c.toNat
  n == 0x9 || n == 0xA || n == 0xD || (0x20 ≤ n && n ≤ 0x7E) || n == 0x85 ||
    (0xA0 ≤ n && n ≤ 0xD7FF) || (0xE000 ≤ n && n ≤ 0xFFFD) || (0x10000 ≤ n && n ≤ 0x10FFFF)

/-- **A character that is left as it is although it is not printable**: the delete character, a control
above it that does not end a line, or one of the two at the end of the plane that are no characters. -/
def isUnescaped (c : Char) : Bool :=
  let n := c.toNat
  (0x7F ≤ n && n ≤ 0x9F && n != 0x85) || n == 0xFFFE || n == 0xFFFF

theorem isPrintable_iff {c : Char} : isPrintable c = true ↔
    c.toNat = 0x9 ∨ c.toNat = 0xA ∨ c.toNat = 0xD ∨ (0x20 ≤ c.toNat ∧ c.toNat ≤ 0x7E) ∨ c.toNat = 0x85 ∨
      (0xA0 ≤ c.toNat ∧ c.toNat ≤ 0xD7FF) ∨ (0xE000 ≤ c.toNat ∧ c.toNat ≤ 0xFFFD) ∨
      (0x10000 ≤ c.toNat ∧ c.toNat ≤ 0x10FFFF) := by
  simp [isPrintable, or_assoc]

theorem isUnescaped_iff {c : Char} : isUnescaped c = true ↔
    (0x7F ≤ c.toNat ∧ c.toNat ≤ 0x9F ∧ c.toNat ≠ 0x85) ∨ c.toNat = 0xFFFE ∨ c.toNat = 0xFFFF := by
  simp [isUnescaped, or_assoc, and_assoc]

/-- **What is neither printable nor a control below the space** is one of the unescaped characters. -/
theorem isPrintable_or_isUnescaped {c : Char} (h : 0x20 ≤ c.toNat) :
    isPrintable c = true ∨ isUnescaped c = true := by
  have hvalid : c.toNat < 0xD800 ∨ 0xDFFF < c.toNat ∧ c.toNat < 0x110000 := c.valid
  rw [isPrintable_iff, isUnescaped_iff]
  omega

theorem isPrintable_eq_false {c : Char} (h : isUnescaped c = true) : isPrintable c = false := by
  rw [isUnescaped_iff] at h
  rw [Bool.eq_false_iff, ne_eq, isPrintable_iff]
  omega

/-! ## Texts -/

/-- The unescaped characters of the text are among some characters. -/
def UnescapedIn (others : Char → Prop) (s : String) : Prop :=
  ∀ c ∈ s.toList, isUnescaped c = true → others c

/-- **The text is printable but for some characters.** -/
def PrintableBut (others : Char → Prop) (s : String) : Prop :=
  ∀ c ∈ s.toList, isPrintable c = true ∨ others c

variable {others : Char → Prop} {s t : String}

theorem PrintableBut.append (hs : PrintableBut others s) (ht : PrintableBut others t) :
    PrintableBut others (s ++ t) := by
  intro c hc
  rw [String.toList_append] at hc
  exact (List.mem_append.1 hc).elim (hs c) (ht c)

theorem PrintableBut.fixed {l : List Char} (h : l.all isPrintable = true) :
    PrintableBut others (String.ofList l) := by
  intro c hc
  rw [String.toList_ofList] at hc
  exact .inl (List.all_eq_true.1 h c hc)

theorem PrintableBut.label (h : IsLabel s.toList) : PrintableBut others s := by
  intro c hc
  left
  rw [isPrintable_iff]
  obtain hlabel | rfl := h.chars c hc
  · rw [isLabelChar_iff] at hlabel
    omega
  · decide

/-! ## Comments and scalars -/

theorem printableBut_commentText (h : UnescapedIn others s) :
    PrintableBut others (commentText s) := by
  intro c hc
  rw [commentText, String.toList_ofList] at hc
  obtain ⟨d, hd, rfl⟩ := List.mem_map.1 hc
  split
  · exact .inl (by decide)
  · rename_i hkept
    simp only [isControl, Bool.or_eq_true, not_or, decide_eq_true_eq] at hkept
    exact (isPrintable_or_isUnescaped (by omega)).imp_right (h d hd)

theorem isPrintable_of_isPlainChar {c : Char} (h : isPlainChar c = true) : isPrintable c = true := by
  simp only [isPlainChar, Bool.or_eq_true, isAlphanumeric_iff, beq_iff_eq] at h
  obtain ((((hletter | rfl) | rfl) | rfl) | rfl) | rfl := h
  · rw [isPrintable_iff]
    omega
  all_goals decide

theorem isPrintable_digitChar {d : Nat} (h : d < 16) : isPrintable d.digitChar = true := by
  have hall : ∀ d < 16, isPrintable (Nat.digitChar d) = true := by decide
  exact hall d h

/-- **What is written for a character** is printable, unless it is that character as it is. -/
theorem mem_yamlChar {c d : Char} (h : d ∈ yamlChar c) :
    isPrintable d = true ∨ d = c ∧ 0x20 ≤ c.toNat := by
  have hfixed {l : List Char} (hl : l.all isPrintable = true) (hd : d ∈ l) :
      isPrintable d = true ∨ d = c ∧ 0x20 ≤ c.toNat := .inl (List.all_eq_true.1 hl d hd)
  unfold yamlChar at h
  split at h
  · exact hfixed rfl h
  · exact hfixed rfl h
  · exact hfixed rfl h
  · unfold Json.escapeChar at h
    split at h
    case h_8 =>
      split at h
      · rename_i hlow
        refine hfixed ?_ h
        simp [Json.escapeCode, isPrintable_digitChar (show c.toNat / 16 < 16 by omega),
          isPrintable_digitChar (show c.toNat % 16 < 16 by omega)]
        decide
      · rename_i hhigh
        exact .inr ⟨List.mem_singleton.1 h, Nat.not_lt.1 hhigh⟩
    all_goals exact hfixed rfl h

theorem printableBut_yamlScalar (h : UnescapedIn others s) :
    PrintableBut others (yamlScalar s) := by
  intro c hc
  unfold yamlScalar at hc
  split at hc
  · rename_i hplain
    simp only [isPlainScalar, Bool.and_eq_true, List.all_eq_true] at hplain
    exact .inl (isPrintable_of_isPlainChar (hplain.1.1.1.2 c hc))
  · rw [String.toList_ofList] at hc
    simp only [List.mem_cons, List.mem_append, List.mem_flatMap, List.not_mem_nil, or_false] at hc
    obtain rfl | ⟨d, hd, hcd⟩ | rfl := hc
    · exact .inl (by decide)
    · obtain hprintable | ⟨rfl, hhigh⟩ := mem_yamlChar hcd
      · exact .inl hprintable
      · exact (isPrintable_or_isUnescaped hhigh).imp_right (h c hd)
    · exact .inl (by decide)

theorem yamlChar_of_isUnescaped {c : Char} (h : isUnescaped c = true) : yamlChar c = [c] := by
  unfold yamlChar
  split
  case h_4 =>
    unfold Json.escapeChar
    split
    case h_8 =>
      rw [isUnescaped_iff] at h
      exact if_neg (by omega)
    all_goals exact absurd h (by decide)
  all_goals exact absurd h (by decide)

/-- **An unescaped character of a text stands in its scalar.** -/
theorem mem_yamlScalar {c : Char} (hc : c ∈ s.toList) (h : isUnescaped c = true) :
    c ∈ (yamlScalar s).toList := by
  have hplain : isPlainScalar s = false := by
    rw [Bool.eq_false_iff]
    intro hplain
    simp only [isPlainScalar, Bool.and_eq_true, List.all_eq_true] at hplain
    have hprintable := isPrintable_of_isPlainChar (hplain.1.1.1.2 c hc)
    rw [isPrintable_eq_false h] at hprintable
    cases hprintable
  have hself : c ∈ yamlChar c := by
    rw [yamlChar_of_isUnescaped h]
    exact List.mem_singleton_self c
  simp only [yamlScalar, hplain, Bool.false_eq_true, if_false, String.toList_ofList, List.mem_cons,
    List.mem_append, List.mem_flatMap]
  exact .inr (.inl ⟨c, hc, hself⟩)

/-! ## Slugs -/

theorem isPrintable_of_isInkCode {c : Char} (h : IsInkCode c.toNat) : isPrintable c = true := by
  unfold IsInkCode at h
  rw [isPrintable_iff]
  omega

theorem isPrintable_or_mem_of_mem_slugify {name : String} {d : Char}
    (h : d ∈ (slugify name).toList) : isPrintable d = true ∨ d ∈ name.toList := by
  obtain rfl | ⟨w, hw, hd⟩ := mem_slugify h
  · exact .inl (by decide)
  · exact (mem_lower hd).2.imp isPrintable_of_isInkCode (mem_of_mem_words hw)

theorem mem_slug {n : Node} {fallback : String} {d : Char} (h : d ∈ (n.slug fallback).toList) :
    isPrintable d = true ∨ d ∈ n.name.toList ∨ (∃ label ∈ n.label, d ∈ label.toList) ∨
      d ∈ fallback.toList := by
  unfold Node.slug at h
  split at h
  · split at h
    · rename_i label hlabel
      split at h
      · exact .inr (.inr (.inr h))
      · exact (isPrintable_or_mem_of_mem_slugify h).imp_right fun hd => .inr (.inl ⟨label, hlabel, hd⟩)
    · exact .inr (.inr (.inr h))
  · exact (isPrintable_or_mem_of_mem_slugify h).imp_right .inl

end CloudDiagram.Yaml
