import CloudDiagram.Proofs.Record.Order

/-!
# One field of a record

What a record makes of one of its fields, whatever is written in the others.

* `Fields.At`, `put`, `get`: a field by its place, and its slot;
* `accept_at`, `accept_beside`: a member of this field, and one of another field;
* `Surround`, `Surround.fill`: a record with the value of one field left open;
* **`decode_fill`**: a record that is accepted with one value of a field makes of any other value what
  the field makes of it;
* `Lacks`, `decode_lacks`: a record without the field.
-/

namespace CloudDiagram

open Json

/-- **A field of a record**, by its place among the fields. -/
inductive Fields.At (name : String) (required : Bool) (shape : Shape) : Fields → Type
  | here {rest : Fields} : At name required shape (.cons name required shape rest)
  | there {other : String} {otherRequired : Bool} {first : Shape} {rest : Fields} (hne : other ≠ name)
      (field : At name required shape rest) :
      At name required shape (.cons other otherRequired first rest)

namespace Fields.At

variable {name : String} {required : Bool} {shape : Shape} {source : Source}

/-- The number of fields before it. -/
def place {fields : Fields} : At name required shape fields → Nat
  | here => 0
  | there _ field => field.place + 1

/-- What has been read of the field. -/
def get : {fields : Fields} → At name required shape fields → fields.Slots → Option shape.Carrier
  | _, here, (slot, _) => slot
  | _, there _ field, (_, slots) => field.get slots

/-- The slots with the one of the field replaced. -/
def put : {fields : Fields} → At name required shape fields → Option shape.Carrier → fields.Slots →
    fields.Slots
  | _, here, slot, (_, slots) => (slot, slots)
  | _, there _ field, slot, (first, slots) => (first, field.put slot slots)

theorem put_get {fields : Fields} (field : At name required shape fields) (slots : fields.Slots) :
    field.put (field.get slots) slots = slots := by
  induction field with
  | here => rfl
  | there hne field ih => exact Prod.ext rfl (ih slots.2)

theorem get_noSlots {fields : Fields} (field : At name required shape fields) :
    field.get fields.noSlots = none := by
  induction field with
  | here => rfl
  | there hne field ih => exact ih

theorem accept_at {fields : Fields} (field : At name required shape fields) {slots : fields.Slots}
    (hslot : field.get slots = none) (w : Written) :
    fields.accept source slots name w =
      (shape.decode source w).map fun a => field.put (some a) slots := by
  induction field with
  | here =>
    obtain ⟨slot, slots⟩ := slots
    cases (hslot : slot = none)
    rw [Fields.accept, if_pos rfl]
    cases shape.decode source w <;> rfl
  | there hne field ih =>
    obtain ⟨first, slots⟩ := slots
    have hrest := @ih slots hslot
    simp only [Fields.accept, if_neg hne.symm, hrest]
    cases shape.decode source w <;> rfl

theorem accept_repeated {fields : Fields} (field : At name required shape fields) {slots : fields.Slots}
    (hslot : field.get slots ≠ none) (w : Written) :
    fields.accept source slots name w = unfit (.duplicateField name) := by
  induction field with
  | here =>
    obtain ⟨_ | a, slots⟩ := slots
    · exact absurd rfl hslot
    · rw [Fields.accept, if_pos rfl]
  | there hne field ih =>
    obtain ⟨first, slots⟩ := slots
    have hrest := @ih slots hslot
    simp only [Fields.accept, if_neg hne.symm, hrest]
    rfl

theorem accept_beside {fields : Fields} (field : At name required shape fields)
    (slot : Option shape.Carrier) (slots : fields.Slots) {key : String} (hkey : key ≠ name)
    (w : Written) :
    fields.accept source (field.put slot slots) key w =
      (fields.accept source slots key w).map (field.put slot) := by
  induction field with
  | @here rest =>
    obtain ⟨old, slots⟩ := slots
    simp only [put, Fields.accept, if_neg hkey]
    cases rest.accept source slots key w <;> rfl
  | @there other _ first rest hne field ih =>
    obtain ⟨other', slots⟩ := slots
    by_cases hother : key = other
    · simp only [put, Fields.accept, if_pos hother]
      cases other' with
      | some b => rfl
      | none => cases first.decode source w <;> rfl
    · simp only [put, Fields.accept, if_neg hother, ih]
      cases rest.accept source slots key w <;> rfl

theorem acceptAll_beside {fields : Fields} (field : At name required shape fields)
    (slot : Option shape.Carrier) {entries : List (String × Written)}
    (hname : name ∉ entries.map Prod.fst) (slots : fields.Slots) :
    acceptAll source fields (field.put slot slots) entries =
      (acceptAll source fields slots entries).map (field.put slot) := by
  induction entries generalizing slots with
  | nil => rfl
  | cons e rest ih =>
    rw [List.map_cons, List.mem_cons, not_or] at hname
    rw [acceptAll_cons, acceptAll_cons, field.accept_beside slot slots (Ne.symm hname.1)]
    cases fields.accept source slots e.1 e.2 with
    | error f => rfl
    | ok next => exact ih hname.2 next

theorem put_none_of_acceptAll {fields : Fields} (field : At name required shape fields)
    {entries : List (String × Written)} (hname : name ∉ entries.map Prod.fst)
    {slots next : fields.Slots} (hslot : field.get slots = none)
    (h : acceptAll source fields slots entries = .ok next) : field.put none next = next := by
  have hbeside : acceptAll source fields (field.put none slots) entries =
      (acceptAll source fields slots entries).map (field.put none) :=
    field.acceptAll_beside none hname slots
  rw [← hslot, field.put_get, hslot, h] at hbeside
  exact (Except.ok.inj hbeside).symm

/-- **Members with the value of one field left open**: if they are taken in with one value, they are
with any other that the field accepts, and without the field. -/
theorem acceptAll_open {fields : Fields} (field : At name required shape fields)
    {before after : List (String × Written)} (hlast : name ∉ after.map Prod.fst) {w₀ : Written}
    {slots : fields.Slots}
    (h : acceptAll source fields fields.noSlots (before ++ (name, w₀) :: after) = .ok slots) :
    ∃ base : fields.Slots,
      (∀ w, acceptAll source fields fields.noSlots (before ++ (name, w) :: after) =
        (shape.decode source w).map fun a => field.put (some a) base) ∧
      acceptAll source fields fields.noSlots (before ++ after) = .ok (field.put none base) := by
  have hsplit (entries : List (String × Written)) :
      acceptAll source fields fields.noSlots (before ++ entries) =
        (acceptAll source fields fields.noSlots before).bind fun s =>
          acceptAll source fields s entries := List.foldlM_append
  simp only [hsplit] at h ⊢
  obtain ⟨first, hfirst, h⟩ := bind_eq_ok.1 h
  have hslot : field.get first = none := by
    by_contra hslot
    rw [acceptAll_cons, field.accept_repeated hslot] at h
    cases h
  have htail (w : Written) : acceptAll source fields first ((name, w) :: after) =
      (shape.decode source w).bind fun a =>
        (acceptAll source fields first after).map (field.put (some a)) := by
    rw [acceptAll_cons, field.accept_at hslot]
    cases shape.decode source w with
    | error f => rfl
    | ok a => exact field.acceptAll_beside (some a) hlast first
  rw [htail] at h
  obtain ⟨a₀, -, h⟩ := bind_eq_ok.1 h
  obtain ⟨base, hbase, -⟩ := map_eq_ok.1 h
  refine ⟨base, fun w => ?_, ?_⟩
  · rw [hfirst]
    refine (htail w).trans ?_
    rw [hbase]
    cases shape.decode source w <;> rfl
  · rw [hfirst, field.put_none_of_acceptAll hlast hslot hbase]
    exact hbase

end Fields.At

/-! ## Records as lists -/

/-- The slots of a record of which everything has been read. -/
def Fields.toSlots : (fields : Fields) → fields.Carrier → fields.Slots
  | .nil, () => ()
  | .cons _ true _ rest, (a, others) => (some a, rest.toSlots others)
  | .cons _ false _ rest, (slot, others) => (slot, rest.toSlots others)

theorem finish_toSlots : (fields : Fields) → (data : fields.Carrier) →
    fields.finish (fields.toSlots data) = .ok data
  | .nil, () => rfl
  | .cons _ true _ rest, (a, others) => by
    rw [Fields.toSlots, Fields.finish, finish_toSlots rest others]
    rfl
  | .cons _ false _ rest, (slot, others) => by
    rw [Fields.toSlots, Fields.finish, finish_toSlots rest others]
    rfl

theorem decodeItems_nil {source : Source} : (fields : Fields) → {index : Nat} → {expected : String} →
    {data : fields.Carrier} → {surplus : List Written} →
    fields.decodeItems source index expected none [] = .ok (data, surplus) → surplus = []
  | .nil, index, expected, data, surplus, h => by
    rw [Fields.decodeItems] at h
    cases h
    rfl
  | .cons _ true _ rest, index, expected, data, surplus, h => by
    rw [Fields.decodeItems] at h
    cases h
  | .cons _ false _ rest, index, expected, data, surplus, h => by
    rw [Fields.decodeItems] at h
    obtain ⟨_, -, h⟩ := bind_eq_ok.1 h
    obtain ⟨⟨others, left⟩, hothers, h⟩ := bind_eq_ok.1 h
    cases h
    exact decodeItems_nil rest hothers

namespace Fields.At

variable {name : String} {required : Bool} {shape : Shape} {source : Source}

/-- **Items of which the last one is left open**: if they are read with one value there, they are with
any other that the field accepts, and without the field if it may be left out. -/
theorem decodeItems_open {fields : Fields} (field : At name required shape fields)
    {before : List Written} (hplace : before.length = field.place) {w₀ : Written} {index : Nat}
    {expected : String} {data : fields.Carrier} {surplus : List Written}
    (h : fields.decodeItems source index expected none (before ++ [w₀]) = .ok (data, surplus)) :
    ∃ base : fields.Slots,
      (∀ w, fields.decodeItems source index expected none (before ++ [w]) =
        (shape.decode source w).bind fun a =>
          (fields.finish (field.put (some a) base)).map (·, [])) ∧
      (required = false → fields.decodeItems source index expected none before =
        (fields.finish (field.put none base)).map (·, [])) := by
  induction field generalizing before index with
  | @here rest =>
    obtain rfl := List.length_eq_zero_iff.1 hplace
    obtain ⟨others, hothers⟩ : ∃ others,
        rest.decodeItems source (index + 1) expected none [] = .ok (others, []) := by
      cases required <;>
      · rw [List.nil_append, Fields.decodeItems] at h
        obtain ⟨_, -, h⟩ := bind_eq_ok.1 h
        obtain ⟨⟨others, left⟩, hothers, -⟩ := bind_eq_ok.1 h
        obtain rfl := decodeItems_nil rest hothers
        exact ⟨others, hothers⟩
    have hfinish := finish_toSlots rest others
    refine ⟨(none, rest.toSlots others), fun w => ?_, fun hrequired => ?_⟩
    · cases required <;>
      · simp only [List.nil_append, Fields.decodeItems, hothers, put, Fields.finish, hfinish]
        cases shape.decode source w <;> rfl
    · subst hrequired
      simp only [Fields.decodeItems, hothers, put, Fields.finish, hfinish]
      rfl
  | @there other otherRequired first rest hne field ih =>
    cases before with
    | nil => cases hplace
    | cons b before =>
      have hrest : before.length = field.place := Nat.succ.inj hplace
      cases otherRequired <;>
      · rw [List.cons_append, Fields.decodeItems] at h
        obtain ⟨x, hx, h⟩ := bind_eq_ok.1 h
        obtain ⟨⟨others, left⟩, hothers, h⟩ := bind_eq_ok.1 h
        cases h
        obtain ⟨base, hfill, hleave⟩ := ih hrest hothers
        refine ⟨(some x, base), fun w => ?_, fun hrequired => ?_⟩
        · simp only [List.cons_append, Fields.decodeItems, hx, hfill, put, Fields.finish]
          cases shape.decode source w with
          | error f => rfl
          | ok a =>
            simp only [Except.bind, bind]
            cases rest.finish (field.put (some a) base) <;> rfl
        · simp only [Fields.decodeItems, hx, hleave hrequired, put, Fields.finish]
          simp only [Except.bind, bind]
          cases rest.finish (field.put none base) <;> rfl

theorem decodeItems_short {fields : Fields} (field : At name false shape fields) {items : List Written}
    (hshort : items.length ≤ field.place) {index : Nat} {expected : String} {data : fields.Carrier}
    {surplus : List Written}
    (h : fields.decodeItems source index expected none items = .ok (data, surplus)) :
    ∃ base : fields.Slots, fields.finish (field.put none base) = .ok data := by
  induction field generalizing items index with
  | @here rest =>
    obtain rfl := List.length_eq_zero_iff.1 (Nat.le_zero.1 hshort)
    rw [Fields.decodeItems] at h
    obtain ⟨_, -, h⟩ := bind_eq_ok.1 h
    obtain ⟨⟨others, left⟩, -, h⟩ := bind_eq_ok.1 h
    cases h
    refine ⟨(none, rest.toSlots others), ?_⟩
    rw [put, Fields.finish, finish_toSlots]
    rfl
  | @there other otherRequired first rest hne field ih =>
    cases items with
    | nil =>
      cases otherRequired with
      | true =>
        rw [Fields.decodeItems] at h
        cases h
      | false =>
        rw [Fields.decodeItems] at h
        obtain ⟨_, -, h⟩ := bind_eq_ok.1 h
        obtain ⟨⟨others, left⟩, hothers, h⟩ := bind_eq_ok.1 h
        cases h
        obtain ⟨base, hbase⟩ := ih (Nat.zero_le _) hothers
        refine ⟨(none, base), ?_⟩
        rw [put, Fields.finish, hbase]
        rfl
    | cons w more =>
      cases otherRequired <;>
      · rw [Fields.decodeItems] at h
        obtain ⟨x, -, h⟩ := bind_eq_ok.1 h
        obtain ⟨⟨others, left⟩, hothers, h⟩ := bind_eq_ok.1 h
        cases h
        obtain ⟨base, hbase⟩ := ih (Nat.le_of_succ_le_succ hshort) hothers
        refine ⟨(some x, base), ?_⟩
        rw [put, Fields.finish, hbase]
        rfl

end Fields.At

/-! ## Records -/

/-- An object as it is written. -/
def Json.Written.ofEntries (entries : List (String × Written)) : Written :=
  .object (entries.map fun e => (.ok e.1, e.2)) none

/-- **A record with the value of one field left open**: as an object, where the key may stand before but
not behind it, or as a list that ends with the field. -/
inductive Surround (name : String) (place : Nat)
  | members (before after : List (String × Written)) (last : name ∉ after.map Prod.fst)
  | items (before : List Written) (full : before.length = place)

namespace Surround

variable {name : String} {place : Nat}

/-- The record with a value of the field. -/
def fill : Surround name place → Written → Written
  | members before after _, w => .ofEntries (before ++ (name, w) :: after)
  | items before _, w => .list (before ++ [w]) none

/-- The record without the field. -/
def without : Surround name place → Written
  | members before after _ => .ofEntries (before ++ after)
  | items before _ => .list before none

end Surround

/-- **A record without a field**: an object without the key, or a list that ends before the field. -/
inductive Lacks (name : String) (place : Nat) : Written → Prop
  | object {entries : List (String × Written)} (h : name ∉ entries.map Prod.fst) :
      Lacks name place (.ofEntries entries)
  | list {items : List Written} (h : items.length ≤ place) : Lacks name place (.list items none)

section Records

variable {name recordName : String} {required : Bool} {shape : Shape} {fields : Fields}
  {source : Source}

theorem foldlM_ofEntries (slots : fields.Slots) (entries : List (String × Written)) :
    ((entries.map fun e => ((.ok e.1, e.2) : Except Fault String × Written)).foldlM
      (fun slots (key, w) => do
        let k ← orFault key
        Fields.accept source fields slots k w) slots : Except Failure fields.Slots) =
    acceptAll source fields slots entries := by
  rw [List.foldlM_map]
  rfl

theorem decode_ofEntries (entries : List (String × Written)) :
    (Shape.record recordName fields).decode source (.ofEntries entries) =
      (acceptAll source fields fields.noSlots entries).bind fields.finish := by
  rw [Written.ofEntries, Shape.decode, foldlM_ofEntries]
  rfl

/-- **A record that is accepted with one value of a field** makes of any other value what the field makes
of it, and is accepted without the field if that may be left out. -/
theorem decode_fill (field : fields.At name required shape) (frame : Surround name field.place)
    {w₀ : Written} {data : fields.Carrier}
    (h : (Shape.record recordName fields).decode source (frame.fill w₀) = .ok data) :
    ∃ base : fields.Slots,
      (∀ w, (Shape.record recordName fields).decode source (frame.fill w) =
        (shape.decode source w).bind fun a => fields.finish (field.put (some a) base)) ∧
      (required = false → (Shape.record recordName fields).decode source frame.without =
        fields.finish (field.put none base)) := by
  cases frame with
  | members before after last =>
    rw [Surround.fill, decode_ofEntries] at h
    obtain ⟨slots, hslots, -⟩ := bind_eq_ok.1 h
    obtain ⟨base, hfill, hleave⟩ := field.acceptAll_open last hslots
    refine ⟨base, fun w => ?_, fun _ => ?_⟩
    · rw [Surround.fill, decode_ofEntries, hfill]
      cases shape.decode source w <;> rfl
    · rw [Surround.without, decode_ofEntries, hleave]
      rfl
  | items before full =>
    rw [Surround.fill, Shape.decode] at h
    obtain ⟨⟨others, left⟩, hothers, -⟩ := bind_eq_ok.1 h
    obtain ⟨base, hfill, hleave⟩ := field.decodeItems_open full hothers
    refine ⟨base, fun w => ?_, fun hrequired => ?_⟩
    · rw [Surround.fill, Shape.decode, hfill]
      cases shape.decode source w with
      | error f => rfl
      | ok a =>
        simp only [Except.bind, bind]
        cases fields.finish (field.put (some a) base) <;> rfl
    · rw [Surround.without, Shape.decode, hleave hrequired]
      simp only [bind, Except.bind]
      cases fields.finish (field.put none base) <;> rfl

theorem decode_lacks (field : fields.At name false shape) {w : Written}
    (hlacks : Lacks name field.place w) {data : fields.Carrier}
    (h : (Shape.record recordName fields).decode source w = .ok data) :
    ∃ base : fields.Slots, fields.finish (field.put none base) = .ok data := by
  cases hlacks with
  | object hname =>
    rw [decode_ofEntries] at h
    obtain ⟨slots, hslots, hfinish⟩ := bind_eq_ok.1 h
    refine ⟨slots, ?_⟩
    rw [field.put_none_of_acceptAll hname field.get_noSlots hslots]
    exact hfinish
  | list hshort =>
    rw [Shape.decode] at h
    obtain ⟨⟨others, left⟩, hothers, h⟩ := bind_eq_ok.1 h
    obtain ⟨_, -, h⟩ := bind_eq_ok.1 h
    cases h
    exact field.decodeItems_short hshort hothers

end Records

end CloudDiagram
