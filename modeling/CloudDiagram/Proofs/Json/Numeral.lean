import CloudDiagram.Json.Reader

/-!
# Numerals inside a text

* `EndsNumber`: a text that does not go on with a number;
* **`readNumeral_append`**: a numeral is read alike with such a text behind it;
* **`leaves_of_readNumeral`**: what is left of a numeral is an end of its text.
-/

namespace CloudDiagram.Json

open Text

/-- A character that can stand in a number. -/
def isNumberChar (c : Char) : Bool :=
  isDigit c || c == '.' || c == 'e' || c == 'E' || c == '+' || c == '-'

/-- The text does not go on with a number. -/
def EndsNumber (rest : List Char) : Prop := ∀ c ∈ rest.head?, isNumberChar c = false

theorem EndsNumber.nil : EndsNumber [] := by simp [EndsNumber]

theorem EndsNumber.cons {c : Char} {rest : List Char} (h : isNumberChar c = false) :
    EndsNumber (c :: rest) := by simpa [EndsNumber] using h

theorem EndsNumber.isDigit {rest : List Char} (h : EndsNumber rest) :
    ∀ c ∈ rest.head?, isDigit c = false := by
  intro c hc
  have := h c hc
  simp only [isNumberChar, Bool.or_eq_false_iff] at this
  exact this.1.1.1.1.1

theorem takeWhile_append_of_head {p : Char → Bool} {s rest : List Char}
    (h : ∀ c ∈ rest.head?, p c = false) : (s ++ rest).takeWhile p = s.takeWhile p := by
  induction s with
  | nil => cases rest with
    | nil => rfl
    | cons c _ => simp [h c rfl]
  | cons c s ih => simp [List.takeWhile_cons, ih]

theorem dropWhile_append_of_head {p : Char → Bool} {s rest : List Char}
    (h : ∀ c ∈ rest.head?, p c = false) : (s ++ rest).dropWhile p = s.dropWhile p ++ rest := by
  induction s with
  | nil => cases rest with
    | nil => rfl
    | cons c _ => simp [h c rfl]
  | cons c s ih =>
    simp only [List.cons_append, List.dropWhile_cons, ih]
    split <;> rfl

/-! ## More text behind a numeral -/

section Append

variable {rest : List Char} (hrest : EndsNumber rest)

include hrest

theorem exponentValue_append (n : Nat) (s : List Char) :
    exponentValue n (s ++ rest) = (exponentValue n s).mapError (· ++ rest) := by
  induction s generalizing n with
  | nil => cases rest with
    | nil => rfl
    | cons c _ =>
      simp only [List.nil_append, exponentValue, hrest.isDigit c rfl, Bool.false_eq_true, if_false]
      rfl
  | cons c s ih =>
    simp only [List.cons_append, exponentValue]
    split
    · split
      · exact ih _
      · rfl
    · rfl

omit hrest in
theorem ofScaled_append {negative : Bool} {s : Scaled} {left : List Char} {n : Number} {r : List Char}
    (h : Reading.ofScaled negative s left = (.number n, some r)) :
    Reading.ofScaled negative s (left ++ rest) = (.number n, some (r ++ rest)) := by
  unfold Reading.ofScaled at h ⊢
  split at h
  · simp_all
  · simp at h

theorem readExponent_append {negative raises : Bool} {s : Scaled} {digits r : List Char} {n : Number}
    (h : readExponent negative s raises digits = (.number n, some r)) :
    readExponent negative s raises (digits ++ rest) = (.number n, some (r ++ rest)) := by
  cases digits with
  | nil => simp [readExponent, Reading.cutNumeral] at h
  | cons c digits =>
    have htail : ((c :: digits) ++ rest).dropWhile isDigit =
      (c :: digits).dropWhile isDigit ++ rest := dropWhile_append_of_head hrest.isDigit
    have hvalue := exponentValue_append hrest 0 (c :: digits)
    simp only [readExponent] at h ⊢
    split at h
    · simp [Reading.stop] at h
    · rename_i hc
      simp only [List.cons_append] at htail hvalue ⊢
      rw [if_neg hc, htail, hvalue]
      cases hv : exponentValue 0 (c :: digits) with
      | ok e =>
        rw [hv] at h
        exact ofScaled_append h
      | error after =>
        have hmap : Except.mapError (ε := List Char) (α := Nat) (· ++ rest) (.error after) =
            .error (after ++ rest) := rfl
        rw [hv] at h
        rw [hmap]
        simp only at h ⊢
        split at h
        · simp at h
        · rename_i hr
          rw [if_neg hr]
          simp_all

theorem readScale_append {negative : Bool} {s : Scaled} {left r : List Char} {n : Number}
    (h : readScale negative s left = some (.number n, some r)) :
    readScale negative s (left ++ rest) = some (.number n, some (r ++ rest)) := by
  cases left with
  | nil => simp [readScale] at h
  | cons mark left =>
    simp only [readScale, List.cons_append] at h ⊢
    split at h
    · rename_i hm
      rw [if_pos hm]
      simp only [Option.some.injEq] at h ⊢
      cases left with
      | nil => simp [readExponent, Reading.cutNumeral] at h
      | cons d left =>
        split at h
        · rename_i e
          obtain ⟨rfl, rfl⟩ := List.cons.inj e
          exact readExponent_append hrest h
        · rename_i e
          obtain ⟨rfl, rfl⟩ := List.cons.inj e
          exact readExponent_append hrest h
        · rename_i hp hm
          simp only [List.cons_append]
          split
          · rename_i e
            exact absurd (by rw [(List.cons.inj e).1]) (hp left)
          · rename_i e
            exact absurd (by rw [(List.cons.inj e).1]) (hm left)
          · exact readExponent_append hrest h
    · simp at h

theorem readScale_append_eq_none {negative : Bool} {s : Scaled} {left : List Char}
    (h : readScale negative s left = none) : readScale negative s (left ++ rest) = none := by
  have hmark : ∀ (c : Char) (t : List Char), readScale negative s (c :: t) = none ↔
      (c == 'e' || c == 'E') = false := by
    intro c t
    simp [readScale]
  cases left with
  | nil => cases rest with
    | nil => exact h
    | cons c t =>
      have hc := hrest c rfl
      simp only [isNumberChar, Bool.or_eq_false_iff] at hc
      rw [List.nil_append, hmark, Bool.or_eq_false_iff]
      exact ⟨hc.1.1.1.2, hc.1.1.2⟩
  | cons c t =>
    rw [List.cons_append, hmark]
    exact (hmark c t).1 h

theorem readScale_getD_append {negative : Bool} {s : Scaled} {left r : List Char} {n : Number}
    {bare bare' : Reading} (hbare : bare = (.number n, some r) → bare' = (.number n, some (r ++ rest)))
    (h : (readScale negative s left).getD bare = (.number n, some r)) :
    (readScale negative s (left ++ rest)).getD bare' = (.number n, some (r ++ rest)) := by
  cases hs : readScale negative s left with
  | none =>
    rw [readScale_append_eq_none hrest hs]
    rw [hs] at h
    exact hbare h
  | some reading =>
    rw [hs] at h
    rw [Option.getD_some] at h
    rw [readScale_append hrest (hs.trans (congrArg some h)), Option.getD_some]

theorem not_dot_append {left : List Char} (h : ∀ t, left ≠ '.' :: t) (t : List Char) :
    left ++ rest ≠ '.' :: t := by
  cases left with
  | nil =>
    intro e
    have := hrest '.' (by rw [← List.nil_append rest, e]; rfl)
    simp [isNumberChar] at this
  | cons c s =>
    intro e
    exact h s (by rw [(List.cons.inj e).1])

theorem readFraction_append {negative : Bool} {before left r : List Char} {n : Number}
    (h : readFraction negative before left = (.number n, some r)) :
    readFraction negative before (left ++ rest) = (.number n, some (r ++ rest)) := by
  unfold readFraction at h
  split at h
  · rename_i s
    cases s with
    | nil => simp [Reading.cutNumeral] at h
    | cons c s =>
      have htail : ((c :: s) ++ rest).dropWhile isDigit = (c :: s).dropWhile isDigit ++ rest :=
        dropWhile_append_of_head hrest.isDigit
      have hdigits : ((c :: s) ++ rest).takeWhile isDigit = (c :: s).takeWhile isDigit :=
        takeWhile_append_of_head hrest.isDigit
      simp only [List.cons_append] at htail hdigits
      simp only [readFraction, List.cons_append, htail, hdigits]
      simp only at h
      split at h
      · simp [Reading.stop] at h
      · rename_i hc
        rw [if_neg hc]
        exact readScale_getD_append hrest ofScaled_append h
  · rename_i hdot
    unfold readFraction
    split
    · rename_i e
      exact absurd e (not_dot_append hrest hdot _)
    · refine readScale_getD_append hrest (fun hb => ?_) h
      split at hb
      · simp_all
      · rename_i hs
        rw [if_neg hs]
        exact ofScaled_append hb

theorem readNumeral_append {negative : Bool} {s r : List Char} {n : Number}
    (h : readNumeral negative s = (.number n, some r)) :
    readNumeral negative (s ++ rest) = (.number n, some (r ++ rest)) := by
  cases s with
  | nil => simp [readNumeral, Reading.cutNumeral] at h
  | cons c s =>
    have hd : ((c :: s) ++ rest).dropWhile isDigit = (c :: s).dropWhile isDigit ++ rest :=
      dropWhile_append_of_head hrest.isDigit
    have ht : ((c :: s) ++ rest).takeWhile isDigit = (c :: s).takeWhile isDigit :=
      takeWhile_append_of_head hrest.isDigit
    have hhead : (s ++ rest).head?.any isDigit = s.head?.any isDigit := by
      cases s with
      | nil => cases rest with
        | nil => rfl
        | cons e _ => simp [hrest.isDigit e rfl]
      | cons _ _ => rfl
    simp only [List.cons_append] at hd ht
    simp only [readNumeral, List.cons_append, hd, ht, hhead] at h ⊢
    split at h
    · simp [Reading.stop] at h
    · rename_i h1
      rw [if_neg h1]
      split at h
      · simp [Reading.stop] at h
      · rename_i h2
        rw [if_neg h2]
        exact readFraction_append hrest h

end Append

/-! ## What is left of a numeral -/

section Leaves

/-- What is left, unless reading stops, is an end of the text. -/
def Leaves (left : Option (List Char)) (text : List Char) : Prop := ∃ r, left = some r ∧ r <:+ text

theorem Leaves.trans {left : Option (List Char)} {s t : List Char} (h : Leaves left s)
    (hst : s <:+ t) : Leaves left t := by
  obtain ⟨r, hr, hsuffix⟩ := h
  exact ⟨r, hr, hsuffix.trans hst⟩

variable {negative : Bool} {n : Number} {left : Option (List Char)}

theorem leaves_of_ofScaled {s : Scaled} {rest : List Char}
    (h : Reading.ofScaled negative s rest = (.number n, left)) : Leaves left rest := by
  unfold Reading.ofScaled at h
  split at h
  · exact ⟨rest, (Prod.mk.inj h).2.symm, List.suffix_rfl⟩
  · simp at h

theorem leaves_of_readExponent {raises : Bool} {s : Scaled} {digits : List Char}
    (h : readExponent negative s raises digits = (.number n, left)) : Leaves left digits := by
  have hdrop : digits.dropWhile isDigit <:+ digits := List.dropWhile_suffix _
  unfold readExponent at h
  split at h
  · simp [Reading.cutNumeral] at h
  · split at h
    · simp [Reading.stop] at h
    · split at h
      · exact (leaves_of_ofScaled h).trans hdrop
      · split at h
        · simp at h
        · exact ⟨_, (Prod.mk.inj h).2.symm, hdrop⟩

theorem leaves_of_readScale {s : Scaled} {rest : List Char}
    (h : readScale negative s rest = some (.number n, left)) : Leaves left rest := by
  unfold readScale at h
  split at h
  · split at h
    · simp only [Option.some.injEq] at h
      split at h
      · exact ((leaves_of_readExponent h).trans (List.suffix_cons _ _)).trans (List.suffix_cons _ _)
      · exact ((leaves_of_readExponent h).trans (List.suffix_cons _ _)).trans (List.suffix_cons _ _)
      · exact (leaves_of_readExponent h).trans (List.suffix_cons _ _)
    · simp at h
  · simp at h

theorem leaves_of_readScale_getD {s : Scaled} {rest : List Char} {bare : Reading}
    (hbare : bare = (.number n, left) → Leaves left rest)
    (h : (readScale negative s rest).getD bare = (.number n, left)) : Leaves left rest := by
  cases hs : readScale negative s rest with
  | none =>
    rw [hs] at h
    exact hbare h
  | some reading =>
    rw [hs, Option.getD_some] at h
    exact leaves_of_readScale (hs.trans (congrArg some h))

theorem leaves_of_readFraction {before rest : List Char}
    (h : readFraction negative before rest = (.number n, left)) : Leaves left rest := by
  unfold readFraction at h
  split at h
  · split at h
    · simp [Reading.cutNumeral] at h
    · split at h
      · simp [Reading.stop] at h
      · exact ((leaves_of_readScale_getD leaves_of_ofScaled h).trans
          (List.dropWhile_suffix _)).trans (List.suffix_cons _ _)
  · refine leaves_of_readScale_getD (fun hb => ?_) h
    split at hb
    · exact ⟨rest, (Prod.mk.inj hb).2.symm, List.suffix_rfl⟩
    · exact leaves_of_ofScaled hb

/-- **A number leaves an end of its text.** -/
theorem leaves_of_readNumeral {s : List Char}
    (h : readNumeral negative s = (.number n, left)) : Leaves left s := by
  unfold readNumeral at h
  split at h
  · simp [Reading.cutNumeral] at h
  · split at h
    · simp [Reading.stop] at h
    · split at h
      · simp [Reading.stop] at h
      · exact (leaves_of_readFraction h).trans (List.dropWhile_suffix _)

end Leaves

end CloudDiagram.Json
