import CloudDiagram.Diagram.Catalog
import CloudDiagram.Proofs.Text.Decimal

/-!
# Form entries

What is typed into a form is classified when it is entered, and read again where it is used.

* `PropertyValue.ofInput_cases`, `PropertyValue.ofInput_eq_text_iff`: what an entry becomes, and when it
  stays the text that was typed;
* `PropertyValue.asWord_ofInput`, `PropertyValue.asBool_ofInput`: an entry serves as what its text serves
  as;
* **`PropertySpec.entry_resolves_as_text`**: so no property depends on the classification.
-/

namespace CloudDiagram

open Text

theorem bool?_eq_none_iff {s : String} : bool? s = none ↔ s ≠ "true" ∧ s ≠ "false" := by
  unfold bool?
  split
  · rename_i htrue
    simp [htrue]
  · rename_i htrue
    split
    · rename_i hfalse
      simp [hfalse]
    · rename_i hfalse
      simp [htrue, hfalse]

theorem word?_of_bool? {s : String} {b : Bool} (h : bool? s = some b) : word? s = none := by
  unfold bool? at h
  split at h
  · rename_i htrue
    rw [htrue]
    decide
  · split at h
    · rename_i hfalse
      rw [hfalse]
      decide
    · cases h

theorem word?_eq_none_iff {s : String} :
    word? s = none ↔ ∀ w : UInt64, ¬ Spells s.toList w.toNat := by
  simp only [Option.eq_none_iff_forall_ne_some, ne_eq, word?_eq_some_iff]

namespace PropertyValue

variable (raw : String)

/-- **What an entry becomes**: a truth value, a number, or the text that was typed. -/
theorem ofInput_cases :
    (∃ b, bool? (trim raw) = some b ∧ ofInput raw = .bool b) ∨
      (∃ w, bool? (trim raw) = none ∧ word? (trim raw) = some w ∧
        ofInput raw = .number (.ofWord w)) ∨
      (bool? (trim raw) = none ∧ word? (trim raw) = none ∧ ofInput raw = .text raw) := by
  unfold ofInput
  cases hbool : bool? (trim raw) with
  | some b => exact .inl ⟨b, rfl, rfl⟩
  | none =>
    cases hword : word? (trim raw) with
    | some w => exact .inr (.inl ⟨w, rfl, rfl, rfl⟩)
    | none => exact .inr (.inr ⟨rfl, rfl, rfl⟩)

theorem ofInput_eq_text_iff :
    ofInput raw = .text raw ↔
      trim raw ≠ "true" ∧ trim raw ≠ "false" ∧ ∀ w : UInt64, ¬ Spells (trim raw).toList w.toNat := by
  rw [← and_assoc, ← bool?_eq_none_iff, ← word?_eq_none_iff]
  obtain ⟨b, hbool, hentry⟩ | ⟨w, -, hword, hentry⟩ | ⟨hbool, hword, hentry⟩ := ofInput_cases raw
  · simp [hentry, hbool]
  · simp [hentry, hword]
  · simp [hentry, hbool, hword]

theorem asWord_ofWord (w : UInt64) : (number (.ofWord w)).asWord = some w := by
  have hwhole : (Json.Number.ofWord w).whole? = some w.toNat := rfl
  rw [asWord, hwhole, Option.map_some, Nat.min_eq_left (Nat.le_sub_one_of_lt w.toNat_lt_size),
    UInt64.ofNat_toNat]

theorem asWord_ofInput : (ofInput raw).asWord = (text raw).asWord := by
  have htext : (text raw).asWord = word? (trim raw) := rfl
  rw [htext]
  obtain ⟨b, hbool, hentry⟩ | ⟨w, -, hword, hentry⟩ | ⟨-, -, hentry⟩ := ofInput_cases raw
  · rw [hentry, word?_of_bool? hbool]
    rfl
  · rw [hentry, hword, asWord_ofWord]
  · rw [hentry]
    rfl

theorem asBool_ofInput : (ofInput raw).asBool = (text raw).asBool := by
  have htext : (text raw).asBool = bool? (trim raw) := rfl
  rw [htext]
  obtain ⟨b, hbool, hentry⟩ | ⟨w, hbool, -, hentry⟩ | ⟨-, -, hentry⟩ := ofInput_cases raw
  · rw [hentry, hbool]
    rfl
  · rw [hentry, hbool]
    rfl
  · rw [hentry]
    rfl

end PropertyValue

namespace PropertySpec

variable {spec : PropertySpec} {p : Properties} {v : PropertyValue}

theorem result_resolveWord (h : p.get? spec.key = some v) :
    (spec.resolveWord p).result = v.asWord.getD spec.defaultWord := by
  rw [resolveWord, h]
  cases hserves : v.asWord <;> simp only [hserves] <;> rfl

theorem result_resolveBool (h : p.get? spec.key = some v) :
    (spec.resolveBool p).result = v.asBool.getD (spec.default == "true") := by
  rw [resolveBool, h]
  cases hserves : v.asBool <;> simp only [hserves] <;> rfl

/-- **Classifying a form entry does not change what it resolves to**: the entry and the text that was
typed give the same number and the same truth value for every property; and the text is kept as it was
typed unless it is a truth value or a number of 64 bits between blanks. -/
theorem entry_resolves_as_text (spec : PropertySpec) (raw : String) :
    (∀ p q : Properties, p.get? spec.key = some (.ofInput raw) → q.get? spec.key = some (.text raw) →
      (spec.resolveWord p).result = (spec.resolveWord q).result ∧
        (spec.resolveBool p).result = (spec.resolveBool q).result) ∧
      (PropertyValue.ofInput raw = .text raw ↔ trim raw ≠ "true" ∧ trim raw ≠ "false" ∧
        ∀ w : UInt64, ¬ Spells (trim raw).toList w.toNat) := by
  refine ⟨fun p q hp hq => ⟨?_, ?_⟩, PropertyValue.ofInput_eq_text_iff raw⟩
  · rw [result_resolveWord hp, result_resolveWord hq, PropertyValue.asWord_ofInput]
  · rw [result_resolveBool hp, result_resolveBool hq, PropertyValue.asBool_ofInput]

/-- An entry with a sign, leading zeros and blanks around it. -/
theorem entry_resolves_as_text_padded :
    (KeyMap.ofList [("storage", PropertyValue.ofInput " +0064\t")]).get? storageSize.key =
        some (.ofInput " +0064\t") ∧
      (KeyMap.ofList [("storage", PropertyValue.text " +0064\t")]).get? storageSize.key =
        some (.text " +0064\t") ∧
      (storageSize.resolveWord (KeyMap.ofList [("storage", .ofInput " +0064\t")])).result =
        (storageSize.resolveWord (KeyMap.ofList [("storage", .text " +0064\t")])).result ∧
      (storageSize.resolveWord (KeyMap.ofList [("storage", .text " +0064\t")])).result = 64 := by
  have hserves := (entry_resolves_as_text storageSize " +0064\t").1
    (KeyMap.ofList [("storage", .ofInput " +0064\t")])
    (KeyMap.ofList [("storage", .text " +0064\t")]) rfl rfl
  exact ⟨rfl, rfl, hserves.1, by decide⟩

end PropertySpec

end CloudDiagram
