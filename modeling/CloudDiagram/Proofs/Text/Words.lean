import CloudDiagram.Proofs.Text.Trim
import Mathlib.Data.List.TakeWhile

/-!
# Words of a text

* `HasWords`: the words of a text, told by the text alone;
* **`words_eq_iff`**: these are the words that are found, whatever blanks stand between them;
* `words_eq_nil_iff`, `ne_nil_of_mem_words`: only a text of blanks has no words, and no word is empty;
* `AllBlank`, `hasInk_eq_false_iff`, `trim_eq_empty_iff`: nothing is left of a text of blanks when it is
  trimmed.
-/

namespace CloudDiagram.Text

variable {c : Char} {l w gap rest : List Char} {ws : List (List Char)} {s : String}

/-- What follows a word: nothing, or a blank and more. -/
def EndsWord (rest : List Char) : Prop := ∀ c ∈ rest.head?, isBlank c = true

theorem EndsWord.nil : EndsWord [] := fun c hc => absurd hc (Option.not_mem_none c)

theorem EndsWord.cons (hc : isBlank c = true) : EndsWord (c :: rest) := fun _ hd =>
  Option.some.inj hd ▸ hc

/-- **A text has words**: they stand in it in order with blanks between them, and perhaps blanks before
the first one and after the last one. -/
inductive HasWords : List Char → List (List Char) → Prop
  | blank {gap : List Char} (hgap : ∀ c ∈ gap, isBlank c = true) : HasWords gap []
  | word {gap word rest : List Char} {ws : List (List Char)} (hgap : ∀ c ∈ gap, isBlank c = true)
      (hne : word ≠ []) (hword : ∀ c ∈ word, isBlank c = false)
      (hend : EndsWord rest) (hrest : HasWords rest ws) :
      HasWords (gap ++ (word ++ rest)) (word :: ws)

/-! ## The words that are found -/

theorem splitWords_blank_cons (h : isBlank c = true) : splitWords (c :: l) = ([], words l) := by
  simp only [splitWords, h, if_true, words]

theorem splitWords_ink_cons (h : isBlank c = false) :
    splitWords (c :: l) = (c :: (splitWords l).1, (splitWords l).2) := by
  simp only [splitWords, h, Bool.false_eq_true, if_false]

theorem words_blank_cons (h : isBlank c = true) : words (c :: l) = words l := by
  rw [words, splitWords_blank_cons h]
  rfl

theorem words_append_of_blank (hgap : ∀ c ∈ gap, isBlank c = true) : words (gap ++ l) = words l := by
  induction gap with
  | nil => rfl
  | cons c gap ih =>
    obtain ⟨hc, hgap⟩ := List.forall_mem_cons.1 hgap
    rw [List.cons_append, words_blank_cons hc, ih hgap]

theorem splitWords_append (hw : ∀ c ∈ w, isBlank c = false) (hend : EndsWord rest) :
    splitWords (w ++ rest) = (w, words rest) := by
  induction w with
  | nil =>
    cases rest with
    | nil => rfl
    | cons c rest =>
      have hc := hend c rfl
      rw [List.nil_append, splitWords_blank_cons hc, words_blank_cons hc]
  | cons c w ih =>
    obtain ⟨hc, hw⟩ := List.forall_mem_cons.1 hw
    rw [List.cons_append, splitWords_ink_cons hc, ih hw]

theorem words_append (hne : w ≠ []) (hw : ∀ c ∈ w, isBlank c = false) (hend : EndsWord rest) :
    words (w ++ rest) = w :: words rest := by
  rw [words, splitWords_append hw hend]
  exact if_neg fun hempty => hne (List.isEmpty_iff.1 hempty)

theorem HasWords.words_eq (h : HasWords l ws) : words l = ws := by
  induction h with
  | @blank gap hgap =>
    rw [← List.append_nil gap, words_append_of_blank hgap]
    rfl
  | word hgap hne hword hend _ ih => rw [words_append_of_blank hgap, words_append hne hword hend, ih]

theorem HasWords.blank_cons (hc : isBlank c = true) (h : HasWords l ws) : HasWords (c :: l) ws := by
  cases h with
  | blank hgap => exact .blank (List.forall_mem_cons.2 ⟨hc, hgap⟩)
  | word hgap hne hword hend hrest =>
    exact .word (List.forall_mem_cons.2 ⟨hc, hgap⟩) hne hword hend hrest

/-- What stands before the first blank, and the words behind it. -/
structure SplitsAt (l rest : List Char) : Prop where
  eq_append : l = (splitWords l).1 ++ rest
  ink : ∀ c ∈ (splitWords l).1, isBlank c = false
  ends : EndsWord rest
  later : HasWords rest (splitWords l).2

theorem SplitsAt.hasWords_words (h : SplitsAt l rest) : HasWords l (words l) := by
  by_cases hword : (splitWords l).1 = []
  · have hl := h.eq_append
    rw [hword, List.nil_append] at hl
    subst hl
    have hwords : words l = (splitWords l).2 := if_pos (List.isEmpty_iff.2 hword)
    rw [hwords]
    exact h.later
  · have hwords : words l = (splitWords l).1 :: (splitWords l).2 :=
      if_neg fun hempty => hword (List.isEmpty_iff.1 hempty)
    have hspaced := HasWords.word (List.forall_mem_nil _) hword h.ink h.ends h.later
    rw [List.nil_append, ← h.eq_append] at hspaced
    rw [hwords]
    exact hspaced

theorem exists_splitsAt (l : List Char) : ∃ rest, SplitsAt l rest := by
  induction l with
  | nil => exact ⟨[], rfl, List.forall_mem_nil _, .nil, .blank (List.forall_mem_nil _)⟩
  | cons c l ih =>
    obtain ⟨rest, hsplit⟩ := ih
    cases hc : isBlank c with
    | true =>
      refine ⟨c :: l, ?_, ?_, .cons hc, ?_⟩ <;> rw [splitWords_blank_cons hc]
      · rfl
      · exact List.forall_mem_nil _
      · exact hsplit.hasWords_words.blank_cons hc
    | false =>
      refine ⟨rest, ?_, ?_, hsplit.ends, ?_⟩ <;> rw [splitWords_ink_cons hc]
      · exact congrArg (c :: ·) hsplit.eq_append
      · exact List.forall_mem_cons.2 ⟨hc, hsplit.ink⟩
      · exact hsplit.later

/-- **The words that are found** are those that the text has. -/
theorem words_eq_iff : words l = ws ↔ HasWords l ws := by
  refine ⟨?_, HasWords.words_eq⟩
  rintro rfl
  obtain ⟨rest, hsplit⟩ := exists_splitsAt l
  exact hsplit.hasWords_words

/-! ## Words and their characters -/

theorem HasWords.mem (h : HasWords l ws) (hw : w ∈ ws) :
    w ≠ [] ∧ ∀ c ∈ w, isBlank c = false ∧ c ∈ l := by
  induction h with
  | blank => cases hw
  | word hgap hne hword _ _ ih =>
    obtain rfl | hw := List.mem_cons.1 hw
    · refine ⟨hne, fun c hc => ⟨hword c hc, ?_⟩⟩
      exact List.mem_append_right _ (List.mem_append_left _ hc)
    · obtain ⟨hne, hlater⟩ := ih hw
      refine ⟨hne, fun c hc => ⟨(hlater c hc).1, ?_⟩⟩
      exact List.mem_append_right _ (List.mem_append_right _ (hlater c hc).2)

theorem ne_nil_of_mem_words (hw : w ∈ words l) : w ≠ [] := ((words_eq_iff.1 rfl).mem hw).1

theorem isBlank_of_mem_words (hw : w ∈ words l) : ∀ c ∈ w, isBlank c = false := fun c hc =>
  (((words_eq_iff.1 rfl).mem hw).2 c hc).1

theorem mem_of_mem_words (hw : w ∈ words l) (hc : c ∈ w) : c ∈ l :=
  (((words_eq_iff.1 rfl).mem hw).2 c hc).2

theorem words_eq_nil_iff : words l = [] ↔ ∀ c ∈ l, isBlank c = true := by
  rw [words_eq_iff]
  constructor
  · intro h
    cases h
    assumption
  · exact .blank

theorem words_eq_singleton (hne : l ≠ []) (h : ∀ c ∈ l, isBlank c = false) : words l = [l] := by
  have hwords := words_append hne h .nil
  rw [List.append_nil] at hwords
  exact hwords

/-! ## Something to show -/

/-- All characters of the text are white space. -/
def AllBlank (s : String) : Prop := ∀ c ∈ s.toList, isBlank c = true

theorem hasInk_eq_false_iff : hasInk s = false ↔ AllBlank s := by
  simp only [hasInk, AllBlank, List.any_eq_false, Bool.not_eq_true', Bool.not_eq_false]

/-- **Nothing is left of a trimmed text** exactly when it has no character to show. -/
theorem trim_eq_empty_iff : trim s = "" ↔ hasInk s = false := by
  rw [hasInk_eq_false_iff, AllBlank, trim, trimChars, trimEndChars, trimStartChars,
    String.ofList_eq_empty_iff, List.reverse_eq_nil_iff, List.dropWhile_eq_nil_iff]
  simp only [List.mem_reverse]
  refine ⟨fun h c hc => ?_, fun h c hc => h c ((List.dropWhile_suffix _).mem hc)⟩
  -- what is dropped is blank as it is, and what is left by the assumption
  rw [← List.takeWhile_append_dropWhile (p := isBlank) (l := s.toList), List.mem_append] at hc
  obtain hc | hc := hc
  · exact List.mem_takeWhile_imp hc
  · exact h c hc

end CloudDiagram.Text
