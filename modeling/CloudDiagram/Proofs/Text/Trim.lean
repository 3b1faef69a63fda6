import CloudDiagram.Proofs.Text.Ascii

/-!
# Trimmed texts

* `isBlank_of_head?_trimChars`, `isBlank_of_getLast?_trimChars`: a trimmed text has no blank at either
  end;
* `trimChars_trimChars`, `trimChars_map_asciiLower`: trimming twice, and trimming in lower case.
-/

namespace CloudDiagram.Text

variable {s : List Char}

theorem head?_dropWhile_isBlank (s : List Char) :
    ∀ c ∈ (s.dropWhile isBlank).head?, isBlank c = false := by
  intro c hc
  have hhead := List.head?_dropWhile_not isBlank s
  rw [Option.mem_def.1 hc] at hhead
  exact hhead

theorem length_trimEndChars_le (s : List Char) : (trimEndChars s).length ≤ s.length := by
  rw [trimEndChars, List.length_reverse]
  exact Nat.le_trans (List.dropWhile_suffix _).length_le (Nat.le_of_eq s.length_reverse)

theorem isBlank_of_head?_trimChars (h : trimChars s = s) : ∀ c ∈ s.head?, isBlank c = false := by
  have hsuffix := List.dropWhile_suffix (l := s) isBlank
  have hlength := length_trimEndChars_le (trimStartChars s)
  rw [← trimChars, h] at hlength
  have hstart : s.dropWhile isBlank = s := hsuffix.eq_of_length_le hlength
  rw [← hstart]
  exact head?_dropWhile_isBlank s

theorem isBlank_of_getLast?_trimChars (h : trimChars s = s) :
    ∀ c ∈ s.getLast?, isBlank c = false := by
  rw [← h, trimChars, trimEndChars, List.getLast?_reverse]
  exact head?_dropWhile_isBlank _

/-! ## Trimming again -/

theorem dropWhile_isBlank_eq_self (h : ∀ c ∈ s.head?, isBlank c = false) : s.dropWhile isBlank = s := by
  cases s with
  | nil => rfl
  | cons c rest => exact List.dropWhile_cons_of_neg (by rw [h c rfl]; exact Bool.false_ne_true)

theorem trimEndChars_prefix (s : List Char) : trimEndChars s <+: s := by
  rw [trimEndChars, ← List.reverse_suffix, List.reverse_reverse]
  exact List.dropWhile_suffix _

theorem trimEndChars_trimEndChars (s : List Char) :
    trimEndChars (trimEndChars s) = trimEndChars s := by
  rw [trimEndChars, trimEndChars, List.reverse_reverse,
    dropWhile_isBlank_eq_self (head?_dropWhile_isBlank _)]

theorem trimChars_trimChars (s : List Char) : trimChars (trimChars s) = trimChars s := by
  have hstart : trimStartChars (trimChars s) = trimChars s := by
    refine dropWhile_isBlank_eq_self fun c hc => ?_
    -- what is left of the end is a beginning of what is left of the start
    obtain ⟨last, hlast⟩ := trimEndChars_prefix (trimStartChars s)
    refine head?_dropWhile_isBlank s c ?_
    rw [← trimStartChars, ← hlast, ← trimChars, List.head?_append, Option.mem_def.1 hc]
    rfl
  rw [trimChars, hstart, trimChars, trimEndChars_trimEndChars]

/-! ## Lower case -/

theorem isBlank_asciiLower (c : Char) : isBlank (asciiLower c) = isBlank c := by
  unfold isBlank
  rw [toNat_asciiLower]
  split
  · rw [Bool.eq_iff_iff]
    simp only [Bool.or_eq_true, Bool.and_eq_true, decide_eq_true_eq, beq_iff_eq]
    omega
  · rfl

theorem dropWhile_isBlank_map_asciiLower (s : List Char) :
    (s.map asciiLower).dropWhile isBlank = (s.dropWhile isBlank).map asciiLower := by
  rw [List.dropWhile_map]
  have hblank : isBlank ∘ asciiLower = isBlank := funext isBlank_asciiLower
  rw [hblank]

/-- **Trimming and lower case** can be taken in either order. -/
theorem trimChars_map_asciiLower (s : List Char) :
    trimChars (s.map asciiLower) = (trimChars s).map asciiLower := by
  simp only [trimChars, trimStartChars, trimEndChars, dropWhile_isBlank_map_asciiLower,
    ← List.map_reverse]

end CloudDiagram.Text
