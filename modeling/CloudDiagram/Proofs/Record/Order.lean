import CloudDiagram.Proofs.Except
import CloudDiagram.Record.Shape
import CloudDiagram.Proofs.Json.RoundTrip

/-!
# Records in any order

* `acceptAll`: members with distinct keys, taken into a record one after the other;
* **`acceptAll_perm`**: what comes out does not depend on their order;
* `Fills`: members in the order of the fields;
* **`Fills.decode_record`**: a record that is written in the order of its fields is decoded from its
  value in key order.
-/

namespace CloudDiagram

open Json

variable (source : Source)

/-- **The members of a record**, taken in one after the other. -/
def acceptAll (fields : Fields) (slots : fields.Slots) (members : List (String × Written)) :
    Except Failure fields.Slots :=
  members.foldlM (fun slots m => Fields.accept source fields slots m.1 m.2) slots

theorem acceptAll_cons (fields : Fields) (slots : fields.Slots) (m : String × Written)
    (members : List (String × Written)) : acceptAll source fields slots (m :: members) =
      (Fields.accept source fields slots m.1 m.2).bind fun next =>
        acceptAll source fields next members := rfl

variable {source}

section Accept

variable {name : String} {required : Bool} {shape : Shape} {rest : Fields}
  {slot : Option shape.Carrier} {slots : rest.Slots} {key : String} {w : Written}

theorem accept_self {s : (Fields.cons name required shape rest).Slots} :
    Fields.accept source (.cons name required shape rest) (slot, slots) name w = .ok s ↔
      slot = none ∧ ∃ a, shape.decode source w = .ok a ∧ s = (some a, slots) := by
  simp only [Fields.accept, if_true]
  cases slot with
  | some b => simp [unfit]
  | none =>
    cases shape.decode source w with
    | error f => simp [bind, Except.bind]
    | ok a => simp [bind, Except.bind, pure, Except.pure, eq_comm]

theorem accept_ne (hne : key ≠ name) {s : (Fields.cons name required shape rest).Slots} :
    Fields.accept source (.cons name required shape rest) (slot, slots) key w = .ok s ↔
      ∃ r, rest.accept source slots key w = .ok r ∧ s = (slot, r) := by
  simp only [Fields.accept, if_neg hne]
  cases rest.accept source slots key w with
  | error f => simp [bind, Except.bind]
  | ok r => simp [bind, Except.bind, pure, Except.pure, eq_comm]

end Accept

theorem accept_comm {k₁ k₂ : String} (hne : k₁ ≠ k₂) {w₁ w₂ : Written} : (fields : Fields) →
    (slots : fields.Slots) → {s₁ s₂ : fields.Slots} →
    fields.accept source slots k₁ w₁ = .ok s₁ → fields.accept source s₁ k₂ w₂ = .ok s₂ →
    ∃ s, fields.accept source slots k₂ w₂ = .ok s ∧ fields.accept source s k₁ w₁ = .ok s₂
  | .nil, (), s₁, s₂, h₁, h₂ => by
    simp only [Fields.accept] at h₁ h₂ ⊢
    exact ⟨(), h₂, h₁⟩
  | .cons name required shape rest, (slot, slots), s₁, s₂, h₁, h₂ => by
    by_cases hk₁ : k₁ = name
    · subst hk₁
      obtain ⟨rfl, a, ha, rfl⟩ := accept_self.1 h₁
      obtain ⟨r, hr, rfl⟩ := (accept_ne (Ne.symm hne)).1 h₂
      exact ⟨(none, r), (accept_ne (Ne.symm hne)).2 ⟨r, hr, rfl⟩, accept_self.2 ⟨rfl, a, ha, rfl⟩⟩
    · obtain ⟨r₁, hr₁, rfl⟩ := (accept_ne hk₁).1 h₁
      by_cases hk₂ : k₂ = name
      · subst hk₂
        obtain ⟨rfl, a, ha, rfl⟩ := accept_self.1 h₂
        exact ⟨(some a, slots), accept_self.2 ⟨rfl, a, ha, rfl⟩, (accept_ne hk₁).2 ⟨r₁, hr₁, rfl⟩⟩
      · obtain ⟨r₂, hr₂, rfl⟩ := (accept_ne hk₂).1 h₂
        obtain ⟨r, hr, hr'⟩ := accept_comm hne rest slots hr₁ hr₂
        exact ⟨(slot, r), (accept_ne hk₂).2 ⟨r, hr, rfl⟩, (accept_ne hk₁).2 ⟨r₂, hr', rfl⟩⟩

/-- **The order of members with distinct keys does not matter.** -/
theorem acceptAll_perm {fields : Fields} {slots s : fields.Slots}
    {members members' : List (String × Written)} (hperm : members.Perm members')
    (hkeys : (members.map Prod.fst).Nodup) (h : acceptAll source fields slots members = .ok s) :
    acceptAll source fields slots members' = .ok s := by
  induction hperm generalizing slots with
  | nil => exact h
  | cons m _ ih =>
    rw [acceptAll_cons, bind_eq_ok] at h ⊢
    obtain ⟨next, hnext, h⟩ := h
    exact ⟨next, hnext, ih (List.nodup_cons.1 hkeys).2 h⟩
  | swap m m' rest =>
    rw [acceptAll_cons, bind_eq_ok] at h ⊢
    obtain ⟨s₁, h₁, h⟩ := h
    rw [acceptAll_cons, bind_eq_ok] at h
    obtain ⟨s₂, h₂, h⟩ := h
    have hne : m'.1 ≠ m.1 := fun e => (List.nodup_cons.1 hkeys).1 (by simp [e])
    obtain ⟨s', hm, hm'⟩ := accept_comm hne fields slots h₁ h₂
    refine ⟨s', hm, ?_⟩
    rw [acceptAll_cons, bind_eq_ok]
    exact ⟨s₂, hm', h⟩
  | trans hperm _ ih₁ ih₂ => exact ih₂ ((hperm.map Prod.fst).nodup_iff.1 hkeys) (ih₁ hkeys h)

/-- Members of a value as they are written. -/
def writtenEntries (members : List (String × Value)) : List (String × Written) :=
  members.map fun m => (m.1, .ofValue m.2)

theorem writtenEntries_cons (m : String × Value) (members : List (String × Value)) :
    writtenEntries (m :: members) = (m.1, .ofValue m.2) :: writtenEntries members := rfl

theorem foldlM_writtenMembers (fields : Fields) (slots : fields.Slots)
    (members : List (String × Value)) :
    ((writtenMembers members).foldlM (fun slots (key, w) => do
      let k ← orFault key
      Fields.accept source fields slots k w) slots : Except Failure fields.Slots) =
    acceptAll source fields slots (writtenEntries members) := by
  induction members generalizing slots with
  | nil => rfl
  | cons m rest ih =>
    rw [writtenMembers, List.foldlM_cons, writtenEntries, List.map_cons, acceptAll_cons]
    exact congrArg (Except.bind _) (funext ih)

theorem decode_record_object {name : String} {fields : Fields} {members : List (String × Value)}
    {s : fields.Slots} {data : fields.Carrier}
    (haccept : acceptAll source fields fields.noSlots (writtenEntries members) = .ok s)
    (hfinish : fields.finish s = .ok data) :
    (Shape.record name fields).decode source (.ofValue (.object members)) = .ok data := by
  rw [Written.ofValue, Shape.decode, foldlM_writtenMembers, haccept]
  exact hfinish

theorem keys_membersInKeyOrder (members : List (String × Value)) :
    (membersInKeyOrder members).map Prod.fst = members.map Prod.fst := by
  rw [membersInKeyOrder_eq_map, List.map_map]
  rfl

theorem keys_writtenEntries (members : List (String × Value)) :
    (writtenEntries members).map Prod.fst = members.map Prod.fst := by
  rw [writtenEntries, List.map_map]
  rfl

/-- **A record in key order** is decoded as if its members stood in the order in which they are
written. -/
theorem decode_record_inKeyOrder {name : String} {fields : Fields}
    {members : List (String × Value)} (hkeys : (members.map Prod.fst).Nodup) {s : fields.Slots}
    {data : fields.Carrier}
    (haccept : acceptAll source fields fields.noSlots
      (writtenEntries (membersInKeyOrder members)) = .ok s)
    (hfinish : fields.finish s = .ok data) :
    (Shape.record name fields).decode source (.ofValue (Value.object members).inKeyOrder) =
      .ok data := by
  rw [← keys_membersInKeyOrder] at hkeys
  have hperm : (writtenEntries (membersInKeyOrder members)).Perm
      (writtenEntries (KeyMap.ofList (membersInKeyOrder members)).entries) :=
    (KeyMap.ofList_perm hkeys).symm.map _
  refine decode_record_object (acceptAll_perm hperm ?_ haccept) hfinish
  rw [keys_writtenEntries]
  exact hkeys

/-! ## Members in the order of the fields -/

/-- The names of fields. -/
def Fields.names : Fields → List String
  | .nil => []
  | .cons name _ _ rest => name :: rest.names

/-- **Members fill the slots of a record**: they stand in the order of the fields, and a field may be
left out. -/
inductive Fills (source : Source) : (fields : Fields) → List (String × Value) → fields.Slots → Prop
  | nil : Fills source .nil [] ()
  | skip {name : String} {required : Bool} {shape : Shape} {rest : Fields}
      {members : List (String × Value)} {slots : rest.Slots} (h : Fills source rest members slots) :
      Fills source (.cons name required shape rest) members (none, slots)
  | take {name : String} {required : Bool} {shape : Shape} {rest : Fields}
      {members : List (String × Value)} {slots : rest.Slots} {v : Value} {a : shape.Carrier}
      (hv : shape.decode source (.ofValue v.inKeyOrder) = .ok a)
      (h : Fills source rest members slots) :
      Fills source (.cons name required shape rest) ((name, v) :: members) (some a, slots)

namespace Fills

variable {fields : Fields} {members : List (String × Value)} {slots : fields.Slots}

theorem keys_sublist (h : Fills source fields members slots) :
    (members.map Prod.fst).Sublist fields.names := by
  induction h with
  | nil => exact .refl _
  | skip _ ih => exact ih.cons _
  | take _ _ ih => exact ih.cons_cons _

theorem acceptAll_rest {name : String} {required : Bool} {shape : Shape} {rest : Fields}
    {slot : Option shape.Carrier} {members : List (String × Written)} {start slots : rest.Slots}
    (hname : name ∉ members.map Prod.fst) (h : acceptAll source rest start members = .ok slots) :
    acceptAll source (.cons name required shape rest) (slot, start) members =
      .ok (slot, slots) := by
  induction members generalizing start with
  | nil =>
    cases h
    rfl
  | cons m others ih =>
    rw [List.map_cons, List.mem_cons, not_or] at hname
    rw [acceptAll_cons, bind_eq_ok] at h ⊢
    obtain ⟨next, hnext, h⟩ := h
    exact ⟨(slot, next), (accept_ne (Ne.symm hname.1)).2 ⟨next, hnext, rfl⟩, ih hname.2 h⟩

theorem acceptAll_eq (h : Fills source fields members slots) (hnames : fields.names.Nodup) :
    acceptAll source fields fields.noSlots (writtenEntries (membersInKeyOrder members)) =
      .ok slots := by
  induction h with
  | nil => rfl
  | skip h ih =>
    obtain ⟨hname, hrest⟩ := List.nodup_cons.1 hnames
    refine acceptAll_rest (fun hmem => hname ?_) (ih hrest)
    rw [keys_writtenEntries, keys_membersInKeyOrder] at hmem
    exact h.keys_sublist.subset hmem
  | @take name _ _ rest _ _ _ a hv h ih =>
    obtain ⟨hname, hrest⟩ := List.nodup_cons.1 hnames
    rw [membersInKeyOrder, writtenEntries_cons, acceptAll_cons, bind_eq_ok]
    refine ⟨(some a, rest.noSlots), accept_self.2 ⟨rfl, a, hv, rfl⟩,
      acceptAll_rest (fun hmem => hname ?_) (ih hrest)⟩
    rw [keys_writtenEntries, keys_membersInKeyOrder] at hmem
    exact h.keys_sublist.subset hmem

/-- **A record that is written in the order of its fields** is decoded from its value in key
order. -/
theorem decode_record {name : String} {s : fields.Slots} {data : fields.Carrier}
    (h : Fills source fields members s) (hnames : fields.names.Nodup)
    (hfinish : fields.finish s = .ok data) :
    (Shape.record name fields).decode source (.ofValue (Value.object members).inKeyOrder) =
      .ok data :=
  decode_record_inKeyOrder (hnames.sublist h.keys_sublist) (h.acceptAll_eq hnames) hfinish

end Fills

end CloudDiagram
