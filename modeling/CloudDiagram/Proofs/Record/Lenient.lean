import CloudDiagram.Proofs.Json.Compact
import CloudDiagram.Proofs.KeyMap
import CloudDiagram.Proofs.Json.Denoted
import CloudDiagram.Record.Shape

/-!
# Properties that are read with leniency

* `KeptAs`, `Properties.Keeps`: what becomes of one value, and of the members of an object;
* `get?_lenient`, **`lenient_keeps`**: only null is lost;
* `decode_null`, `decode_object`, `decode_other`, `decode_ofValue`: what is written as properties, by its
  form.
-/

namespace CloudDiagram

open Json

/-- **What becomes of a value.** A scalar is kept. A list or an object becomes a text that denotes it,
if its floating-point numbers are read as themselves. -/
inductive KeptAs : Value → PropertyValue → Prop
  | bool (b : Bool) : KeptAs (.bool b) (.bool b)
  | number (n : Number) : KeptAs (.number n) (.number n)
  | string (s : String) : KeptAs (.string s) (.text s)
  | list {items : List Value} {text : String}
      (h : (Value.list items).FloatsReadBack → Value.ofText text.toList = .ok (.list items)) :
      KeptAs (.list items) (.text text)
  | object {members : List (String × Value)} {text : String}
      (h : (Value.object members).FloatsReadBack →
        Value.ofText text.toList = .ok (.object members)) :
      KeptAs (.object members) (.text text)

namespace Properties

/-- **Properties keep members**: of each key the last value counts, and only null is lost. -/
structure Keeps (p : Properties) (members : List (String × Value)) : Prop where
  keys : ∀ key, key ∈ p.entries.map Prod.fst ↔ ∃ v, lastValue? members key = some v ∧ v ≠ .null
  values : ∀ key v q, lastValue? members key = some v → p.get? key = some q → KeptAs v q

theorem lenientValue?_eq_none_iff {v : Value} : lenientValue? v = none ↔ v = .null := by
  cases v <;> simp [lenientValue?]

theorem keptAs_of_lenientValue? {v : Value} {q : PropertyValue} (hread : v.Readable 0)
    (horder : v.inKeyOrder = v) (h : lenientValue? v = some q) : KeptAs v q := by
  cases v with
  | null => cases h
  | bool b =>
    cases h
    exact .bool b
  | number n =>
    cases h
    exact .number n
  | string s =>
    cases h
    exact .string s
  | list items =>
    cases h
    exact .list (ofText_compact hread horder)
  | object members =>
    cases h
    exact .object (ofText_compact hread horder)

theorem ascending_filterMap {α β : Type} {f : α → Option β} {entries : List (String × α)}
    (h : Ascending entries) : Ascending (entries.filterMap fun e => (f e.2).map (e.1, ·)) := by
  refine h.filterMap _ fun a b hlt x hx y hy => ?_
  obtain ⟨_, -, rfl⟩ := Option.map_eq_some_iff.1 hx
  obtain ⟨_, -, rfl⟩ := Option.map_eq_some_iff.1 hy
  exact hlt

theorem get?_lenient (members : List (String × Value)) (key : String) :
    (lenient members).get? key = (lastValue? members key).bind lenientValue? := by
  have hlenient : lenient members =
      ⟨_, ascending_filterMap (f := lenientValue?) (KeyMap.ofList members).ascending⟩ :=
    KeyMap.ofList_entries ⟨_, ascending_filterMap (KeyMap.ofList members).ascending⟩
  refine Option.ext fun q => ?_
  rw [hlenient, KeyMap.get?_eq_some_iff, List.mem_filterMap, ← KeyMap.get?_ofList,
    Option.bind_eq_some_iff]
  constructor
  · rintro ⟨⟨k, v⟩, hmem, hv⟩
    obtain ⟨q', hq, heq⟩ := Option.map_eq_some_iff.1 hv
    cases heq
    exact ⟨v, KeyMap.get?_eq_some_iff.2 hmem, hq⟩
  · rintro ⟨v, hv, hq⟩
    exact ⟨(key, v), KeyMap.get?_eq_some_iff.1 hv, by rw [hq, Option.map_some]⟩

/-- **Only null is lost** when an object is read leniently. -/
theorem lenient_keeps {members : List (String × Value)}
    (h : ∀ e ∈ members, e.2.inKeyOrder = e.2 ∧ e.2.Readable 0) :
    (lenient members).Keeps members where
  keys key := by
    simp only [KeyMap.mem_keys_iff, get?_lenient, Option.bind_eq_some_iff]
    constructor
    · rintro ⟨q, v, hv, hq⟩
      refine ⟨v, hv, fun hnull => ?_⟩
      rw [lenientValue?_eq_none_iff.2 hnull] at hq
      cases hq
    · rintro ⟨v, hv, hnull⟩
      obtain ⟨q, hq⟩ := Option.ne_none_iff_exists'.1 (mt lenientValue?_eq_none_iff.1 hnull)
      exact ⟨q, v, hv, hq⟩
  values key v q hv hq := by
    rw [get?_lenient, hv, Option.bind_some] at hq
    obtain ⟨horder, hread⟩ := h _ (mem_of_lastValue? hv)
    exact keptAs_of_lenientValue? hread horder hq

end Properties

/-! ## What is written as properties -/

namespace Shape.lenientProperties

variable (source : Source)

theorem decode_null : Shape.lenientProperties.decode source .null = .ok .empty := by
  rw [Shape.decode]

theorem decode_object {members : List (Except Fault String × Written)}
    {values : List (String × Value)} (h : memberValues members = .ok values) :
    Shape.lenientProperties.decode source (.object members none) =
      .ok (Properties.lenient values) := by
  rw [Shape.decode, h]
  rfl

theorem decode_other {w : Written} (hnull : w ≠ .null)
    (hobject : ∀ members stop, w ≠ .object members stop) :
    Shape.lenientProperties.decode source w = .error (.ofWritten "a map" w) := by
  cases w with
  | null => exact absurd rfl hnull
  | object members stop => exact absurd rfl (hobject members stop)
  | _ => rw [Shape.decode] <;> simp

theorem decode_ofValue {w : Written} {v : Value} (h : w.value = .ok v) :
    Shape.lenientProperties.decode .value (.ofValue v) = Shape.lenientProperties.decode .text w := by
  cases denotes_of_value h with
  | @object members values hvalues =>
    -- the map that is made of the members is made of its own entries again
    have hlast : Properties.lenient (KeyMap.ofList values).entries = Properties.lenient values := by
      rw [Properties.lenient, KeyMap.ofList_entries, Properties.lenient]
    rw [decode_object .text hvalues, ← hlast]
    exact decode_object .value (memberValues_writtenMembers_ofList hvalues)
  | _ => rfl

end Shape.lenientProperties

end CloudDiagram
