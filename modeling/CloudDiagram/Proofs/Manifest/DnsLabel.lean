import CloudDiagram.Proofs.Manifest.Label
import Mathlib.Data.List.Chain

/-!
# Names that stay as they are

* `IsDnsLabel`: a label of at most sixty-three characters without two hyphens in a row;
* `isDnsLabel_dnsLabel`: the name of a cluster object is one, whatever it was made from;
* `IsDnsLabel.dnsLabel_eq_self`: a name is made of one without a change;
* **`dnsLabel_settles`**: so the name made of a name is that name.
-/

namespace CloudDiagram

variable {c : Char} {s : List Char} {mayFollow : Bool}

theorem ne_hyphen_of_isLabelChar (h : isLabelChar c = true) : c ≠ '-' := by
  rintro rfl
  cases h

/-- Two characters that may stand next to each other: not both are hyphens. -/
def MayMeet (c d : Char) : Prop := ¬ (c = '-' ∧ d = '-')

/-- **A DNS label**: small letters, digits and single hyphens, with neither end a hyphen, and at most
sixty-three characters. -/
structure IsDnsLabel (l : List Char) : Prop extends IsLabel l where
  length_le : l.length ≤ 63
  single : l.IsChain MayMeet

/-! ## What is made is a DNS label -/

theorem isChain_labelChars (mayFollow : Bool) (s : List Char) :
    (labelChars mayFollow s).IsChain MayMeet := by
  induction s generalizing mayFollow with
  | nil => exact List.isChain_nil
  | cons c rest ih =>
    unfold labelChars
    split
    · rename_i hc
      exact List.isChain_cons.2 ⟨fun d _ hboth => ne_hyphen_of_isLabelChar hc hboth.1, ih true⟩
    · split
      · -- what follows a hyphen starts with a letter or a digit, if there is anything
        refine List.isChain_cons.2 ⟨fun d hd hboth => ?_, ih false⟩
        exact ne_hyphen_of_isLabelChar (isLabelChar_of_head?_labelChars d hd) hboth.2
      · exact ih false

theorem isDnsLabel_dropHyphens (hne : dropHyphens ((labelChars false s).take 63) ≠ []) :
    IsDnsLabel (dropHyphens ((labelChars false s).take 63)) where
  toIsLabel := isLabel_dropHyphens hne
  length_le := (dropHyphens_isPrefix _).length_le.trans (List.length_take_le 63 _)
  single := by
    obtain ⟨dropped, hsplit⟩ := dropHyphens_isPrefix ((labelChars false s).take 63)
    have hchain := (isChain_labelChars false s).take 63
    rw [← hsplit] at hchain
    exact hchain.left_of_append

theorem isDnsLabel_component : IsDnsLabel "component".toList where
  toIsLabel := .fixed rfl
  length_le := by decide
  single := by unfold MayMeet; decide

theorem isDnsLabel_dnsLabel (raw : String) : IsDnsLabel (dnsLabel raw).toList := by
  unfold dnsLabel
  split
  · exact isDnsLabel_component
  · rename_i hne
    rw [String.toList_ofList]
    exact isDnsLabel_dropHyphens hne

/-! ## A DNS label is kept -/

/-- **The characters of a label are kept** if no hyphen stands where none may follow. -/
theorem labelChars_eq_self_of_isChain (hchars : ∀ c ∈ s, isLabelChar c = true ∨ c = '-')
    (hchain : s.IsChain MayMeet) (hfirst : mayFollow = true ∨ ∀ c ∈ s.head?, c ≠ '-') :
    labelChars mayFollow s = s := by
  induction s generalizing mayFollow with
  | nil => rfl
  | cons c rest ih =>
    obtain ⟨hc, hrest⟩ := List.forall_mem_cons.1 hchars
    obtain ⟨hmeet, hlater⟩ := List.isChain_cons.1 hchain
    obtain hc | rfl := hc
    · rw [labelChars, if_pos hc, ih hrest hlater (.inl rfl)]
    · have hmay : mayFollow = true := hfirst.resolve_right fun hnot => hnot '-' rfl rfl
      have hnext : ∀ d ∈ rest.head?, d ≠ '-' := fun d hd heq => hmeet d hd ⟨rfl, heq⟩
      have hhyphen : ¬ isLabelChar '-' = true := by decide
      rw [labelChars, if_neg hhyphen, if_pos hmay, ih hrest hlater (.inr hnext)]

theorem IsDnsLabel.dnsLabel_eq_self {raw : String} (h : IsDnsLabel raw.toList) : dnsLabel raw = raw := by
  have hlower : raw.toList.flatMap Text.lowerChar = raw.toList := by
    rw [List.flatMap_congr fun c hc => lowerChar_of_isLabelChar (h.chars c hc),
      List.flatMap_singleton']
  have hkept : labelChars false (raw.toList.flatMap Text.lowerChar) = raw.toList := by
    rw [hlower]
    exact labelChars_eq_self_of_isChain h.chars h.single
      (.inr fun c hc => ne_hyphen_of_isLabelChar (h.first c hc))
  have hlast : ∀ c ∈ raw.toList.getLast?, c ≠ '-' := fun c hc =>
    ne_hyphen_of_isLabelChar (h.last c hc)
  rw [dnsLabel_eq hkept h.nonempty h.length_le hlast, String.ofList_toList]

/-- **The name of a cluster object is a DNS label**, and the name made of it is the same. -/
theorem dnsLabel_settles (raw : String) :
    IsDnsLabel (dnsLabel raw).toList ∧ dnsLabel (dnsLabel raw) = dnsLabel raw :=
  ⟨isDnsLabel_dnsLabel raw, (isDnsLabel_dnsLabel raw).dnsLabel_eq_self⟩

end CloudDiagram
