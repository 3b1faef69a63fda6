import CloudDiagram.Generation.Naming
import CloudDiagram.Proofs.Text.LowerCase
import CloudDiagram.Proofs.Text.Words

/-!
# Slugs and shown names

A name is shown when something is left of it after trimming, and it makes a slug when it has a word.

* `hyphenated_eq_nil_iff`: words joined by hyphens are empty only where there are no words;
* `slugify_eq_empty_iff`: only a text of blanks has an empty slug;
* **`slugify_normalizes`**: a slug has no blanks, depends on the words alone and is its own slug;
* `slug_follows_displayName`: the slug and the shown name of a component are taken from the same text.
-/

namespace CloudDiagram

open Text

theorem hyphenated_eq_nil_iff {ws : List (List Char)} (h : ∀ w ∈ ws, w ≠ []) :
    hyphenated ws = [] ↔ ws = [] := by
  match ws with
  | [] => simp [hyphenated]
  | [w] => simp [hyphenated, h w]
  | w :: w' :: ws => simp [hyphenated]

theorem slugify_eq_empty_iff {name : String} : slugify name = "" ↔ hasInk name = false := by
  have hwords : ∀ w ∈ (words name.toList).map lower, w ≠ [] := by
    intro w hw
    obtain ⟨word, hword, rfl⟩ := List.mem_map.1 hw
    exact fun hnil => ne_nil_of_mem_words hword (lower_eq_nil_iff.1 hnil)
  rw [slugify, String.ofList_eq_empty_iff, hyphenated_eq_nil_iff hwords, List.map_eq_nil_iff,
    words_eq_nil_iff, hasInk_eq_false_iff, AllBlank]

theorem isEmpty_slugify (name : String) : (slugify name).isEmpty = !hasInk name := by
  rw [Bool.eq_iff_iff, String.isEmpty_iff, slugify_eq_empty_iff, Bool.not_eq_true']

/-! ## The slug of a slug -/

theorem mem_hyphenated {ws : List (List Char)} {d : Char} (h : d ∈ hyphenated ws) :
    d = '-' ∨ ∃ w ∈ ws, d ∈ w := by
  match ws with
  | [] => cases h
  | [w] => exact .inr ⟨w, List.mem_cons_self, h⟩
  | w :: w' :: ws =>
    have hcons : hyphenated (w :: w' :: ws) = w ++ '-' :: hyphenated (w' :: ws) := rfl
    rw [hcons, List.mem_append, List.mem_cons] at h
    obtain h | rfl | h := h
    · exact .inr ⟨w, List.mem_cons_self, h⟩
    · exact .inl rfl
    · exact (mem_hyphenated h).imp_right fun ⟨v, hv, hd⟩ => ⟨v, List.mem_cons_of_mem w hv, hd⟩

theorem mem_slugify {name : String} {d : Char} (h : d ∈ (slugify name).toList) :
    d = '-' ∨ ∃ w ∈ words name.toList, d ∈ lower w := by
  rw [slugify, String.toList_ofList] at h
  refine (mem_hyphenated h).imp_right ?_
  rintro ⟨w, hw, hd⟩
  obtain ⟨word, hword, rfl⟩ := List.mem_map.1 hw
  exact ⟨word, hword, hd⟩

theorem isBlank_of_mem_slugify {name : String} {d : Char} (h : d ∈ (slugify name).toList) :
    isBlank d = false := by
  obtain rfl | ⟨w, hw, hd⟩ := mem_slugify h
  · rfl
  · exact isBlank_of_mem_lower hd (isBlank_of_mem_words hw)

theorem lowerChar_of_mem_slugify {name : String} {d : Char} (h : d ∈ (slugify name).toList) :
    lowerChar d = [d] := by
  obtain rfl | ⟨w, -, hd⟩ := mem_slugify h
  · decide
  · exact (mem_lower hd).1

/-- **A slug is its own slug**: it is one word, and each of its characters stays in lower case, a final
sigma that is no longer at the end of a word included. -/
theorem slugify_slugify (name : String) : slugify (slugify name) = slugify name := by
  by_cases hempty : slugify name = ""
  · rw [hempty]
    rfl
  · have hne : (slugify name).toList ≠ [] := fun hnil => hempty (String.toList_eq_nil_iff.1 hnil)
    have hwords := words_eq_singleton hne fun c hc => isBlank_of_mem_slugify hc
    have hlower : lower (slugify name).toList = (slugify name).toList :=
      lower_eq_self fun c hc => lowerChar_of_mem_slugify hc
    rw [slugify, hwords, List.map_singleton, hlower, hyphenated, String.ofList_toList]

/-- **Slugs normalise blanks**: a slug has none, it is empty only for a text of blanks, texts with the
same words have the same slug, and a slug is its own slug. -/
theorem slugify_normalizes (name : String) :
    (∀ c ∈ (slugify name).toList, isBlank c = false) ∧
      (slugify name = "" ↔ AllBlank name) ∧
      (∀ other ws, HasWords name.toList ws → HasWords other.toList ws →
        slugify name = slugify other) ∧
      slugify (slugify name) = slugify name := by
  refine ⟨fun c => isBlank_of_mem_slugify, ?_, ?_, slugify_slugify name⟩
  · rw [slugify_eq_empty_iff, hasInk_eq_false_iff]
  · intro other ws hname hother
    rw [slugify, slugify, hname.words_eq, hother.words_eq]

/-- Two words that end in a sigma, with different blanks around them. -/
theorem slugify_normalizes_sigmas :
    HasWords "ΟΔΟΣ\u3000ΣΑΣ".toList ["ΟΔΟΣ".toList, "ΣΑΣ".toList] ∧
      HasWords " ΟΔΟΣ \n ΣΑΣ".toList ["ΟΔΟΣ".toList, "ΣΑΣ".toList] ∧
      slugify "ΟΔΟΣ\u3000ΣΑΣ" = slugify " ΟΔΟΣ \n ΣΑΣ" ∧
      slugify "ΟΔΟΣ\u3000ΣΑΣ" = "οδος-σας" := by
  have hname : words "ΟΔΟΣ\u3000ΣΑΣ".toList = ["ΟΔΟΣ".toList, "ΣΑΣ".toList] := by decide
  have hother : words " ΟΔΟΣ \n ΣΑΣ".toList = ["ΟΔΟΣ".toList, "ΣΑΣ".toList] := by decide
  rw [words_eq_iff] at hname hother
  have hslug := (slugify_normalizes "ΟΔΟΣ\u3000ΣΑΣ").2.2.1 " ΟΔΟΣ \n ΣΑΣ" _ hname hother
  exact ⟨hname, hother, hslug, by decide⟩

/-! ## The slug of a component -/

/-- **The slug and the shown name of a component are made of one text**: of its name unless that is all
blank, else of its label unless that is all blank. Where both are, the slug is the fallback and a
stand-in is shown. -/
theorem Node.slug_follows_displayName (n : Node) (fallback : String) :
    (¬ AllBlank n.name ∧ n.displayName = n.name ∧ n.slug fallback = slugify n.displayName) ∨
      (AllBlank n.name ∧ ∃ label, n.label = some label ∧ ¬ AllBlank label ∧
        n.displayName = label ∧ n.slug fallback = slugify n.displayName) ∨
      (AllBlank n.name ∧ (∀ label ∈ n.label, AllBlank label) ∧
        n.displayName = "Unnamed" ∧ n.slug fallback = fallback) := by
  simp only [← hasInk_eq_false_iff, displayName, slug, isEmpty_slugify]
  cases hname : hasInk n.name with
  | true => left; simp
  | false =>
    right
    cases hlabel : n.label with
    | none => right; simp
    | some label =>
      cases hink : hasInk label with
      | true => left; simp [hink]
      | false => right; simp [hink]

end CloudDiagram
