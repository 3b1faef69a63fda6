import CloudDiagram.Proofs.Number.Bounds
import CloudDiagram.Proofs.Record.Order

/-!
# Coordinates that are read are finite

* `Shape.Finite`, `Fields.Finite`: data whose coordinates are all finite;
* **`Shape.finite_of_decode`**: whatever is decoded is such data.
-/

namespace CloudDiagram

open Json

mutual

/-- **All coordinates in the data of a shape are finite.** -/
def Shape.Finite : (shape : Shape) → shape.Carrier → Prop
  | .text, _ => True
  | .optionalText, _ => True
  | .coordinate, x => x.isFinite = true
  | .count, _ => True
  | .lenientProperties, _ => True
  | .properties, _ => True
  | .sequence item, data => ∀ a ∈ data, item.Finite a
  | .record _ fields, data => fields.Finite data

/-- All coordinates in the data of fields are finite. -/
def Fields.Finite : (fields : Fields) → fields.Carrier → Prop
  | .nil, () => True
  | .cons _ true shape rest, (a, others) => shape.Finite a ∧ rest.Finite others
  | .cons _ false shape rest, (slot, others) => (∀ a ∈ slot, shape.Finite a) ∧ rest.Finite others

end

/-- All coordinates in what has been read of a record are finite. -/
def Fields.SlotsFinite : (fields : Fields) → fields.Slots → Prop
  | .nil, () => True
  | .cons _ _ shape rest, (slot, slots) => (∀ a ∈ slot, shape.Finite a) ∧ rest.SlotsFinite slots

theorem Fields.slotsFinite_noSlots : (fields : Fields) → fields.SlotsFinite fields.noSlots
  | .nil => trivial
  | .cons _ _ _ rest => ⟨nofun, rest.slotsFinite_noSlots⟩

theorem Fields.finite_of_finish : (fields : Fields) → {slots : fields.Slots} →
    {data : fields.Carrier} → fields.SlotsFinite slots → fields.finish slots = .ok data →
    fields.Finite data
  | .nil, _, _, _, _ => trivial
  | .cons _ true _ rest, (none, _), _, _, h => by simp [finish, unfit] at h
  | .cons _ true _ rest, (some a, slots), data, hslots, h => by
    obtain ⟨others, hothers, h⟩ := bind_eq_ok.1 h
    cases h
    exact ⟨hslots.1 a rfl, rest.finite_of_finish hslots.2 hothers⟩
  | .cons _ false _ rest, (slot, slots), data, hslots, h => by
    obtain ⟨others, hothers, h⟩ := bind_eq_ok.1 h
    cases h
    exact ⟨hslots.1, rest.finite_of_finish hslots.2 hothers⟩

theorem mapM_forall {α β ε : Type} {f : α → Except ε β} {P : β → Prop}
    (hf : ∀ {a b}, f a = .ok b → P b) {xs : List α} {ys : List β} (h : xs.mapM f = .ok ys) :
    ∀ b ∈ ys, P b := by
  rw [mapM_eq_ok_iff] at h
  induction h with
  | nil => simp
  | cons hy _ ih => exact List.forall_mem_cons.2 ⟨hf hy, ih⟩

theorem foldlM_invariant {α β ε : Type} {f : β → α → Except ε β} {P : β → Prop}
    (hf : ∀ {b a b'}, P b → f b a = .ok b' → P b') {xs : List α} {b b' : β} (hb : P b)
    (h : xs.foldlM f b = .ok b') : P b' := by
  induction xs generalizing b with
  | nil =>
    cases h
    exact hb
  | cons x rest ih =>
    rw [List.foldlM_cons] at h
    obtain ⟨next, hnext, h⟩ := bind_eq_ok.1 h
    exact ih (hf hb hnext) h

mutual

/-- **Whatever is decoded has finite coordinates.** -/
theorem Shape.finite_of_decode {source : Source} : (shape : Shape) → {w : Written} →
    {a : shape.Carrier} → shape.decode source w = .ok a → shape.Finite a
  | .text, _, _, _ => trivial
  | .optionalText, _, _, _ => trivial
  | .count, _, _, _ => trivial
  | .lenientProperties, _, _, _ => trivial
  | .properties, _, _, _ => trivial
  | .coordinate, w, a, h => by
    rw [Shape.decode.eq_def] at h
    cases w with
    | number n =>
      cases h
      exact n.isFinite_toBinary64
    | _ => cases h
  | .sequence item, w, a, h => by
    rw [Shape.decode.eq_def] at h
    cases w with
    | list items stop =>
      obtain ⟨data, hdata, h⟩ := bind_eq_ok.1 h
      obtain ⟨-, -, h⟩ := bind_eq_ok.1 h
      cases h
      exact mapM_forall (fun hitem => item.finite_of_decode hitem) hdata
    | _ => cases h
  | .record name fields, w, a, h => by
    rw [Shape.decode.eq_def] at h
    cases w with
    | list items stop =>
      obtain ⟨⟨data, surplus⟩, hdata, h⟩ := bind_eq_ok.1 h
      obtain ⟨-, -, h⟩ := bind_eq_ok.1 h
      cases h
      exact fields.finite_of_decodeItems hdata
    | object members stop =>
      obtain ⟨slots, hslots, h⟩ := bind_eq_ok.1 h
      obtain ⟨-, -, h⟩ := bind_eq_ok.1 h
      refine fields.finite_of_finish (foldlM_invariant ?_ fields.slotsFinite_noSlots hslots) h
      intro before m after hbefore hstep
      obtain ⟨key, hkey, hstep⟩ := bind_eq_ok.1 hstep
      exact fields.finite_of_accept hbefore hstep
    | _ => cases h

theorem Fields.finite_of_accept {source : Source} : (fields : Fields) → {slots : fields.Slots} →
    {key : String} → {w : Written} → {next : fields.Slots} → fields.SlotsFinite slots →
    fields.accept source slots key w = .ok next → fields.SlotsFinite next
  | .nil, _, _, _, _, _, _ => trivial
  | .cons name required shape rest, (slot, slots), key, w, next, hslots, h => by
    by_cases hkey : key = name
    · subst hkey
      obtain ⟨-, a, ha, rfl⟩ := accept_self.1 h
      refine ⟨fun b hb => ?_, hslots.2⟩
      cases hb
      exact shape.finite_of_decode ha
    · obtain ⟨r, hr, rfl⟩ := (accept_ne hkey).1 h
      exact ⟨hslots.1, rest.finite_of_accept hslots.2 hr⟩

theorem Fields.finite_of_decodeItems {source : Source} : (fields : Fields) → {index : Nat} →
    {expected : String} → {stop : Option Fault} → {items : List Written} →
    {data : fields.Carrier} → {surplus : List Written} →
    fields.decodeItems source index expected stop items = .ok (data, surplus) →
    fields.Finite data
  | .nil, _, _, _, _, _, _, _ => trivial
  | .cons name true shape rest, index, expected, stop, [], data, surplus, h => by
    rw [Fields.decodeItems.eq_def] at h
    obtain ⟨-, -, h⟩ := bind_eq_ok.1 h
    cases h
  | .cons name true shape rest, index, expected, stop, w :: more, data, surplus, h => by
    rw [Fields.decodeItems.eq_def] at h
    obtain ⟨a, ha, h⟩ := bind_eq_ok.1 h
    obtain ⟨⟨others, left⟩, hothers, h⟩ := bind_eq_ok.1 h
    cases h
    exact ⟨shape.finite_of_decode ha, rest.finite_of_decodeItems hothers⟩
  | .cons name false shape rest, index, expected, stop, [], data, surplus, h => by
    rw [Fields.decodeItems.eq_def] at h
    obtain ⟨-, -, h⟩ := bind_eq_ok.1 h
    obtain ⟨⟨others, left⟩, hothers, h⟩ := bind_eq_ok.1 h
    cases h
    exact ⟨nofun, rest.finite_of_decodeItems hothers⟩
  | .cons name false shape rest, index, expected, stop, w :: more, data, surplus, h => by
    rw [Fields.decodeItems.eq_def] at h
    obtain ⟨a, ha, h⟩ := bind_eq_ok.1 h
    obtain ⟨⟨others, left⟩, hothers, h⟩ := bind_eq_ok.1 h
    cases h
    refine ⟨fun b hb => ?_, rest.finite_of_decodeItems hothers⟩
    cases hb
    exact shape.finite_of_decode ha

end

end CloudDiagram
