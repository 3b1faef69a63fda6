import CloudDiagram.Diagram.Catalog
import CloudDiagram.Proofs.Number.Bounds
import CloudDiagram.Proofs.Number.Value
import CloudDiagram.Proofs.Text.Decimal

/-!
# Resolved numbers

* `PropertyValue.Denotes`: a value denotes a natural number;
* **`PropertyValue.asWord_eq_some_iff`**: a value serves as the number that it denotes;
* `PropertySpec.spells_default`: the number properties have numbers as their defaults;
* **`PropertySpec.resolveWord_denoted`**: a property is the number that its value denotes, or else
  its default with a warning;
* `PropertySpec.resolveWord_of_large`: a number of `2^64` or more resolves to another one.
-/

namespace CloudDiagram

open Text Json

/-- The floating-point number nearest to a natural number, as a number of a document. -/
def Json.Number.nearest (n : Nat) (h : n < twoTo 65) : Number :=
  .float (.ofNat n) (Binary64.isFinite_ofNat h)

namespace PropertyValue

/-- **A value denotes a natural number**: it is that number, or a text that spells it between
blanks. -/
def Denotes : PropertyValue → Nat → Prop
  | .bool _, _ => False
  | .number x, n => x.value = n
  | .text s, n => Spells (trim s).toList n

theorem asWord_number_of_large {x : Number} (hlarge : 2 ^ 64 ≤ x.value) :
    (number x).asWord = some 18446744073709551615 := by
  obtain ⟨k, hk, hwhole⟩ := Number.whole?_of_large hlarge
  have hmin : min k (UInt64.size - 1) = 18446744073709551615 :=
    Nat.min_eq_right (Nat.le_trans (by decide) hk)
  rw [asWord, hwhole, Option.map_some, hmin]
  rfl

/-- **A value serves as the number that it denotes**, if it is below `2^64`. -/
theorem asWord_eq_some_iff {v : PropertyValue} (hfits : ∀ x, v = .number x → x.value < 2 ^ 64)
    {w : UInt64} : v.asWord = some w ↔ v.Denotes w.toNat := by
  cases v with
  | bool b => exact ⟨nofun, nofun⟩
  | text s => exact word?_eq_some_iff
  | number x =>
    rw [asWord, Option.map_eq_some_iff, Denotes, ← Number.whole?_eq_some_iff]
    constructor
    · rintro ⟨k, hwhole, rfl⟩
      have hvalue := Number.whole?_eq_some_iff.1 hwhole
      have hlt := hfits x rfl
      rw [hvalue] at hlt
      have hsize : k < UInt64.size := by exact_mod_cast hlt
      rw [hwhole, Nat.min_eq_left (Nat.le_sub_one_of_lt hsize), UInt64.toNat_ofNat_of_lt' hsize]
    · intro hwhole
      refine ⟨w.toNat, hwhole, ?_⟩
      rw [Nat.min_eq_left (Nat.le_sub_one_of_lt w.toNat_lt_size), UInt64.ofNat_toNat]

end PropertyValue

namespace PropertySpec

variable {spec : PropertySpec} {p : Properties}

theorem spells_default {kind : Kind} (hspec : spec ∈ kind.schema) (hinput : spec.input = .number) :
    Spells spec.default.toList spec.defaultWord.toNat := by
  have hall : ∀ spec ∈ kind.schema, (match spec.input with
      | .number => (word? spec.default).isSome
      | _ => true) = true := by
    cases kind with
    | other raw => exact fun spec hmem => absurd hmem List.not_mem_nil
    | _ => decide
  have hsome := hall spec hspec
  rw [hinput] at hsome
  obtain ⟨w, hw⟩ := Option.isSome_iff_exists.1 hsome
  rw [defaultWord, hw]
  exact word?_eq_some_iff.1 hw

theorem resolveWord_of_none (h : p.get? spec.key = none) :
    spec.resolveWord p = ⟨spec.defaultWord, []⟩ := by
  rw [resolveWord, h]
  rfl

theorem resolveWord_of_some {v : PropertyValue} (h : p.get? spec.key = some v) {w : UInt64}
    (hw : v.asWord = some w) : spec.resolveWord p = ⟨w, []⟩ := by
  rw [resolveWord, h]
  dsimp only
  rw [hw]
  rfl

theorem resolveWord_of_unfit {v : PropertyValue} (h : p.get? spec.key = some v)
    (hw : v.asWord = none) : spec.resolveWord p = ⟨spec.defaultWord,
      [⟨.warning, "Property '" ++ spec.key ++ "' has non-numeric value '" ++ v.shown ++
        "', using default " ++ toString spec.defaultWord.toNat⟩]⟩ := by
  have hwhat : "' has non-numeric value '" = "' has " ++ "non-numeric" ++ " value '" := by decide
  rw [resolveWord, h, hwhat]
  dsimp only
  rw [hw]
  simp only [← String.append_assoc]
  rfl

/-- **A number property is the number that its value denotes**, for a number below `2^64`; if the
value denotes none, the default stands in for it with a warning, and without a value the default
stands alone. -/
theorem resolveWord_denoted (spec : PropertySpec) (p : Properties)
    (hfits : ∀ x, p.get? spec.key = some (.number x) → x.value < 2 ^ 64) :
    (∀ v (w : UInt64), p.get? spec.key = some v → v.Denotes w.toNat →
      spec.resolveWord p = ⟨w, []⟩) ∧
    (∀ v, p.get? spec.key = some v → (∀ w : UInt64, ¬ v.Denotes w.toNat) →
      spec.resolveWord p = ⟨spec.defaultWord,
        [⟨.warning, "Property '" ++ spec.key ++ "' has non-numeric value '" ++ v.shown ++
          "', using default " ++ toString spec.defaultWord.toNat⟩]⟩) ∧
    (p.get? spec.key = none → spec.resolveWord p = ⟨spec.defaultWord, []⟩) := by
  have hserves : ∀ v (w : UInt64), p.get? spec.key = some v →
      (v.asWord = some w ↔ v.Denotes w.toNat) := by
    intro v w h
    refine PropertyValue.asWord_eq_some_iff fun x hx => hfits x ?_
    rw [← hx, h]
  refine ⟨fun v w h hw => ?_, fun v h hnone => ?_, resolveWord_of_none⟩
  · exact resolveWord_of_some h ((hserves v w h).2 hw)
  · refine resolveWord_of_unfit h (Option.eq_none_iff_forall_ne_some.2 fun w hw => ?_)
    exact hnone w ((hserves v w h).1 hw)

/-- A floating-point number that is whole is used, and a text one above the largest word is not. -/
theorem resolveWord_storage :
    storageSize.resolveWord (KeyMap.ofList [("storage", .number (.nearest 64 (by decide)))]) =
      ⟨64, []⟩ ∧
    storageSize.resolveWord (KeyMap.ofList [("storage", .text "18446744073709551616")]) =
      ⟨20, [⟨.warning, "Property 'storage' has non-numeric value '18446744073709551616'" ++
        ", using default 20"⟩]⟩ := by
  have hvalue : (Number.nearest 64 (by decide)).value = (64 : Nat) :=
    Binary64.value_ofNat (by decide +kernel)
  have hlarge : word? (trim "18446744073709551616") = none := by decide
  constructor
  · refine (resolveWord_denoted storageSize _ fun x hx => ?_).1 _ 64 rfl hvalue
    cases hx
    have hlt : (64 : Nat) < 2 ^ 64 := by decide
    rw [hvalue]
    exact_mod_cast hlt
  · have hdefault := (resolveWord_denoted storageSize
      (KeyMap.ofList [("storage", .text "18446744073709551616")]) fun x hx => nomatch hx).2.1 _ rfl
    rw [hdefault fun w hw => ?_]
    · decide
    · have hread := word?_eq_some_iff.2 hw
      rw [hlarge] at hread
      cases hread

/-- **A number of `2^64` or more** resolves to the largest word, without a warning. -/
theorem resolveWord_of_large {x : Number} (h : p.get? spec.key = some (.number x))
    (hlarge : 2 ^ 64 ≤ x.value) : spec.resolveWord p = ⟨18446744073709551615, []⟩ :=
  resolveWord_of_some h (PropertyValue.asWord_number_of_large hlarge)

/-- The least number that is too large becomes a number that fits. -/
theorem resolveWord_storage_large :
    (Number.nearest (2 ^ 64) (by decide)).value = 2 ^ 64 ∧
    storageSize.resolveWord (KeyMap.ofList [("storage", .number (.nearest (2 ^ 64) (by decide)))]) =
      ⟨18446744073709551615, []⟩ ∧
    storageSize.defaultWord = 20 := by
  have hvalue : (Number.nearest (2 ^ 64) (by decide)).value = (2 ^ 64 : Nat) :=
    Binary64.value_ofNat (by decide +kernel)
  rw [Nat.cast_pow] at hvalue
  exact ⟨hvalue, resolveWord_of_large rfl hvalue.ge, by decide⟩

end PropertySpec

end CloudDiagram
