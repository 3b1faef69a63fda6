import CloudDiagram.Diagram.Basic
import CloudDiagram.Proofs.Json.Number

/-!
# Diagrams that survive a save

* `Kind.Canonical`: a kind that is the kind of its own name, see `Kind.ofText_text_iff`;
* `Diagram.Sound`: distinct ids, finite positions, and kinds of which something holds;
* `Diagram.Storable`: the same with canonical kinds;
* `Diagram.floats`, `Diagram.FloatsReadBack`: the floating-point numbers of a diagram are read from
  their own text.
-/

namespace CloudDiagram

/-! ## Kinds -/

/-- **The kind does not hide a kind of the catalog** under its raw name. -/
def Kind.Canonical (k : Kind) : Prop :=
  ∀ raw, k = .other raw → ∀ known ∈ Kind.known, known.text ≠ raw

theorem Kind.ofText_eq_of_mem_known {k : Kind} (h : k ∈ Kind.known) : Kind.ofText k.text = k := by
  have hall : ∀ k ∈ Kind.known, Kind.ofText k.text = k := by decide
  exact hall k h

theorem Kind.mem_known_or_other (k : Kind) : k ∈ Kind.known ∨ ∃ raw, k = .other raw := by
  cases k with
  | other raw => exact Or.inr ⟨raw, rfl⟩
  | _ => exact Or.inl (by decide)

theorem Kind.text_ofText (raw : String) : (Kind.ofText raw).text = raw := by
  unfold Kind.ofText
  cases hfind : Kind.known.find? (·.text == raw) with
  | some k =>
    have hk := List.find?_some hfind
    exact eq_of_beq hk
  | none => rfl

theorem Kind.canonical_ofText (raw : String) : (Kind.ofText raw).Canonical := by
  intro raw' hother known hknown hraw
  unfold Kind.ofText at hother
  cases hfind : Kind.known.find? (·.text == raw) with
  | some k =>
    rw [hfind, Option.getD_some] at hother
    have hmem := List.mem_of_find?_eq_some hfind
    rw [hother] at hmem
    simp [Kind.known] at hmem
  | none =>
    rw [hfind, Option.getD_none] at hother
    have hne := List.find?_eq_none.1 hfind known hknown
    rw [hraw, ← Kind.other.inj hother] at hne
    simp at hne

/-- **A canonical kind is the kind of its name**, and no other is. -/
theorem Kind.ofText_text_iff {k : Kind} : Kind.ofText k.text = k ↔ k.Canonical := by
  constructor
  · intro h
    rw [← h]
    exact Kind.canonical_ofText _
  · intro h
    rcases k.mem_known_or_other with hmem | ⟨raw, rfl⟩
    · exact Kind.ofText_eq_of_mem_known hmem
    · have hnone : Kind.known.find? (·.text == raw) = none :=
        List.find?_eq_none.2 fun known hknown => by simpa using h raw rfl known hknown
      rw [Kind.ofText, Kind.text, hnone, Option.getD_none]

theorem Kind.canonical_of_mem_known {k : Kind} (h : k ∈ Kind.known) : k.Canonical :=
  Kind.ofText_text_iff.1 (Kind.ofText_eq_of_mem_known h)

instance (k : Kind) : Decidable k.Canonical := decidable_of_iff _ Kind.ofText_text_iff

/-! ## Diagrams -/

/-- **A diagram that survives a save**, as far as its numbers do. -/
structure Diagram.Storable (d : Diagram) : Prop where
  ids_nodup : (d.nodes.map (·.id)).Nodup
  positions_finite : ∀ n ∈ d.nodes, n.position.isFinite = true
  kinds_canonical : ∀ n ∈ d.nodes, n.kind.Canonical

instance (d : Diagram) : Decidable d.Storable :=
  decidable_of_iff ((d.nodes.map (·.id)).Nodup ∧ (∀ n ∈ d.nodes, n.position.isFinite = true) ∧
    ∀ n ∈ d.nodes, n.kind.Canonical)
    ⟨fun ⟨h₁, h₂, h₃⟩ => ⟨h₁, h₂, h₃⟩, fun ⟨h₁, h₂, h₃⟩ => ⟨h₁, h₂, h₃⟩⟩

/-- **Distinct ids, finite positions, and kinds of which something holds.** -/
structure Diagram.Sound (holds : Kind → Prop) (d : Diagram) : Prop where
  ids_nodup : (d.nodes.map (·.id)).Nodup
  positions_finite : ∀ n ∈ d.nodes, n.position.isFinite = true
  kinds_hold : ∀ n ∈ d.nodes, holds n.kind

theorem Diagram.sound_empty (holds : Kind → Prop) : Diagram.empty.Sound holds :=
  ⟨List.nodup_nil, by simp [Diagram.empty], by simp [Diagram.empty]⟩

theorem Diagram.Storable.sound {d : Diagram} {holds : Kind → Prop} (h : d.Storable)
    (hcanonical : ∀ k : Kind, k.Canonical → holds k) : d.Sound holds :=
  ⟨h.ids_nodup, h.positions_finite, fun n hn => hcanonical _ (h.kinds_canonical n hn)⟩

theorem Diagram.storable_iff_sound {d : Diagram} : d.Storable ↔ d.Sound Kind.Canonical :=
  ⟨fun h => h.sound fun _ hk => hk, fun ⟨hids, hpositions, hkinds⟩ => ⟨hids, hpositions, hkinds⟩⟩

theorem Diagram.storable_empty : Diagram.empty.Storable :=
  Diagram.storable_iff_sound.2 (Diagram.sound_empty _)

/-- **The number is read from its own text**, unless it has none. -/
def Binary64.ReadsBack (x : Binary64) : Prop :=
  ∀ h : x.isFinite = true, (Json.Number.float x h).ReadsBack

/-- The floating-point number of a value. -/
def PropertyValue.float? : PropertyValue → Option Binary64
  | .number (.float x _) => some x
  | _ => none

/-- The floating-point numbers of a component. -/
def Node.floats (n : Node) : List Binary64 :=
  n.position.x :: n.position.y :: n.properties.entries.filterMap fun e => e.2.float?

/-- **The floating-point numbers of a diagram**, in coordinates and properties. -/
def Diagram.floats (d : Diagram) : List Binary64 := d.nodes.flatMap Node.floats

/-- **Every floating-point number of the diagram is read from its own text.** -/
def Diagram.FloatsReadBack (d : Diagram) : Prop := ∀ x ∈ d.floats, x.ReadsBack

instance (x : Binary64) : Decidable x.ReadsBack := by unfold Binary64.ReadsBack; infer_instance

instance (d : Diagram) : Decidable d.FloatsReadBack := by
  unfold Diagram.FloatsReadBack; infer_instance

theorem PropertyValue.readsBack {n : Json.Number} (h : ∀ x ∈ (PropertyValue.number n).float?,
    x.ReadsBack) : n.ReadsBack := by
  cases n with
  | integer i hi => exact Json.Number.readsBack_integer i hi
  | float x hx => exact h x rfl hx

end CloudDiagram
