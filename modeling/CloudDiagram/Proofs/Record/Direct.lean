import Mathlib.Data.List.Perm.Basic
import CloudDiagram.Proofs.Json.Denoted
import CloudDiagram.Proofs.Record.Lenient
import CloudDiagram.Proofs.Record.Order

/-!
# Records straight from a text

Data can be decoded from the value that a text denotes, or from the text itself. The text keeps what the
value has lost: the order of the members, the members of a repeated key, and what is passed over.

* `Written.DistinctKeys`: no object repeats a key;
* `Fields.accept_text_of_value`: a member that is taken in from its value is taken in from the text;
* **`Shape.decode_text_of_value`**: data decoded from the value is decoded from a text that repeats no
  key.
-/

namespace CloudDiagram

open Json

/-! ## Repeated keys -/

namespace Json

mutual

/-- The keys of every object in what is written, in the order of the text. -/
def Written.keyLists : Written → List (List String)
  | .list items _ => itemKeyLists items
  | .object members _ => members.filterMap (·.1.toOption) :: memberKeyLists members
  | .unusable _ inner => inner.keyLists
  | _ => []

/-- The keys of every object in items. -/
def itemKeyLists : List Written → List (List String)
  | [] => []
  | w :: rest => w.keyLists ++ itemKeyLists rest

/-- The keys of every object in the values of members. -/
def memberKeyLists : List (Except Fault String × Written) → List (List String)
  | [] => []
  | (_, w) :: rest => w.keyLists ++ memberKeyLists rest

end

/-- **No object in what is written repeats a key.** -/
def Written.DistinctKeys (w : Written) : Prop := ∀ keys ∈ w.keyLists, keys.Nodup

instance (w : Written) : Decidable w.DistinctKeys :=
  inferInstanceAs (Decidable (∀ keys ∈ w.keyLists, keys.Nodup))

theorem itemKeyLists_eq_flatMap (items : List Written) :
    itemKeyLists items = items.flatMap Written.keyLists := by
  induction items with
  | nil => rfl
  | cons w rest ih => rw [itemKeyLists, ih, List.flatMap_cons]

theorem memberKeyLists_eq_flatMap (members : List (Except Fault String × Written)) :
    memberKeyLists members = members.flatMap fun m => m.2.keyLists := by
  induction members with
  | nil => rfl
  | cons m rest ih => rw [memberKeyLists, ih, List.flatMap_cons]

variable {items : List Written} {members : List (Except Fault String × Written)}
  {values : List (String × Value)} {stop : Option Fault}

theorem distinctKeys_of_mem_items (h : (Written.list items stop).DistinctKeys) :
    ∀ w ∈ items, w.DistinctKeys := by
  intro w hw keys hkeys
  apply h
  rw [Written.keyLists, itemKeyLists_eq_flatMap]
  exact List.mem_flatMap.2 ⟨w, hw, hkeys⟩

theorem distinctKeys_of_mem_members (h : (Written.object members stop).DistinctKeys) :
    ∀ m ∈ members, m.2.DistinctKeys := by
  intro m hm keys hkeys
  apply h
  rw [Written.keyLists, memberKeyLists_eq_flatMap]
  exact List.mem_cons_of_mem _ (List.mem_flatMap.2 ⟨m, hm, hkeys⟩)

theorem keys_of_memberValues (h : memberValues members = .ok values) :
    members.filterMap (·.1.toOption) = values.map Prod.fst := by
  rw [memberValues_eq_ok_iff] at h
  induction h with
  | nil => rfl
  | cons hm _ ih => rw [List.filterMap_cons, hm.1, Except.toOption, ih, List.map_cons]

theorem nodup_keys_of_distinctKeys (h : (Written.object members stop).DistinctKeys)
    (hvalues : memberValues members = .ok values) : (values.map Prod.fst).Nodup := by
  rw [← keys_of_memberValues hvalues]
  exact h _ List.mem_cons_self

theorem distinctKeys_ofValue_list {items : List Value} :
    (Written.ofValue (.list items)).DistinctKeys ↔
      ∀ v ∈ items, (Written.ofValue v).DistinctKeys := by
  rw [Written.DistinctKeys, Written.ofValue, Written.keyLists, itemKeyLists_eq_flatMap,
    writtenItems_eq_map, List.flatMap_map]
  refine ⟨fun h v hv keys hkeys => ?_, fun h keys hkeys => ?_⟩
  · exact h keys (List.mem_flatMap.2 ⟨v, hv, hkeys⟩)
  · obtain ⟨v, hv, hkeys⟩ := List.mem_flatMap.1 hkeys
    exact h v hv keys hkeys

theorem distinctKeys_ofValue_object {members : List (String × Value)} :
    (Written.ofValue (.object members)).DistinctKeys ↔
      (members.map Prod.fst).Nodup ∧ ∀ m ∈ members, (Written.ofValue m.2).DistinctKeys := by
  have hkeys : (writtenMembers members).filterMap (·.1.toOption) = members.map Prod.fst := by
    rw [keys_of_memberValues (memberValues_writtenMembers members), keys_membersInKeyOrder]
  have hinner : memberKeyLists (writtenMembers members) =
      members.flatMap fun m => (Written.ofValue m.2).keyLists := by
    rw [memberKeyLists_eq_flatMap, writtenMembers_eq_map, List.flatMap_map]
  rw [Written.DistinctKeys, Written.ofValue, Written.keyLists, hkeys, hinner, List.forall_mem_cons]
  refine and_congr_right fun _ => ⟨fun h m hm keys hkeys => ?_, fun h keys hkeys => ?_⟩
  · exact h keys (List.mem_flatMap.2 ⟨m, hm, hkeys⟩)
  · obtain ⟨m, hm, hkeys⟩ := List.mem_flatMap.1 hkeys
    exact h m hm keys hkeys

end Json

/-! ## Items and members one by one -/

theorem mapM_text_of_values {item : Shape} {items : List Written} {values : List Value}
    {data : List item.Carrier} (hvalues : itemValues items = .ok values)
    (hitem : ∀ w ∈ items, ∀ v a, w.value = .ok v → item.decode .value (.ofValue v) = .ok a →
      item.decode .text w = .ok a)
    (h : (writtenItems values).mapM (item.decode .value) = .ok data) :
    items.mapM (item.decode .text) = .ok data := by
  rw [itemValues_eq_ok_iff] at hvalues
  rw [mapM_eq_ok_iff] at h ⊢
  induction hvalues generalizing data with
  | nil =>
    rw [writtenItems] at h
    cases h
    exact .nil
  | cons hw _ ih =>
    rw [List.forall_mem_cons] at hitem
    rw [writtenItems] at h
    cases h with
    | cons ha hmore => exact .cons (hitem.1 _ _ hw ha) (ih hitem.2 hmore)

theorem foldlM_text_of_values {fields : Fields} {members : List (Except Fault String × Written)}
    {values : List (String × Value)} {slots next : fields.Slots}
    (hvalues : memberValues members = .ok values)
    (hstep : ∀ m ∈ members, ∀ v key, ∀ {slots next : fields.Slots}, m.2.value = .ok v →
      fields.accept .value slots key (.ofValue v) = .ok next →
      fields.accept .text slots key m.2 = .ok next)
    (h : acceptAll .value fields slots (writtenEntries values) = .ok next) :
    (members.foldlM (fun slots (key, w) => do
      let k ← orFault key
      Fields.accept .text fields slots k w) slots : Except Failure fields.Slots) = .ok next := by
  rw [memberValues_eq_ok_iff] at hvalues
  induction hvalues generalizing slots with
  | nil => exact h
  | @cons m e members values hm _ ih =>
    obtain ⟨key, w⟩ := m
    obtain ⟨rfl, hw⟩ := hm
    rw [List.forall_mem_cons] at hstep
    rw [writtenEntries_cons, acceptAll_cons] at h
    obtain ⟨middle, hmiddle, h⟩ := bind_eq_ok.1 h
    rw [List.foldlM_cons]
    exact bind_eq_ok.2 ⟨middle, hstep.1 _ _ hw hmiddle, ih hstep.2 h⟩

/-! ## Properties -/

theorem propertyEntries_eq_ok_iff {members : List (Except Fault String × Written)}
    {values : List (String × Value)} {entries : List (String × PropertyValue)}
    (hvalues : memberValues members = .ok values) : propertyEntries members = .ok entries ↔
      List.Forall₂ (fun e p => e.1 = p.1 ∧ PropertyValue.ofJson? e.2 = some p.2) values entries := by
  rw [memberValues_eq_ok_iff] at hvalues
  induction hvalues generalizing entries with
  | nil => cases entries <;> simp [propertyEntries]
  | @cons m e members values hm _ ih =>
    obtain ⟨key, w⟩ := m
    obtain ⟨rfl, hw⟩ := hm
    cases hp : PropertyValue.ofJson? e.2 <;> cases hrest : propertyEntries members <;>
      cases entries <;> simp [propertyEntries, orFault, hw, hp, hrest, ← ih, unfit, bind,
        Except.bind, pure, Except.pure, Prod.ext_iff]

/-! ## Data -/

theorem decode_text_properties {w : Written} {v : Value} {p : Properties} (hw : w.value = .ok v)
    (hkeys : w.DistinctKeys) (h : Shape.properties.decode .value (.ofValue v) = .ok p) :
    Shape.properties.decode .text w = .ok p := by
  rw [Shape.decode.eq_def] at h ⊢
  cases denotes_of_value hw with
  | @object members values hvalues =>
    obtain ⟨entries, hentries, h⟩ := bind_eq_ok.1 h
    cases h
    have hnodup := nodup_keys_of_distinctKeys hkeys hvalues
    rw [propertyEntries_eq_ok_iff (memberValues_writtenMembers_ofList hvalues)] at hentries
    obtain ⟨entries', hread, hperm⟩ :=
      List.perm_comp_forall₂ (KeyMap.ofList_perm hnodup).symm hentries
    have hsame : values.map Prod.fst = entries'.map Prod.fst := by
      rw [← List.forall₂_eq_eq_eq, List.forall₂_map_left_iff, List.forall₂_map_right_iff]
      exact hread.imp fun _ _ h => h.1
    rw [hsame] at hnodup
    rw [← KeyMap.ofList_eq_of_perm hperm hnodup]
    simp only [(propertyEntries_eq_ok_iff hvalues).2 hread]
    rfl
  | _ => cases h

theorem acceptAll_of_ofList {source : Source} {fields : Fields} {slots next : fields.Slots}
    {values : List (String × Value)} (hkeys : (values.map Prod.fst).Nodup)
    (h : acceptAll source fields slots (writtenEntries (KeyMap.ofList values).entries) = .ok next) :
    acceptAll source fields slots (writtenEntries values) = .ok next := by
  have hnodup := (KeyMap.ofList values).nodup_keys
  rw [← keys_writtenEntries] at hnodup
  exact acceptAll_perm ((KeyMap.ofList_perm hkeys).map _) hnodup h

mutual

/-- **Data that is decoded from the value** is decoded straight from a text that repeats no key. -/
theorem Shape.decode_text_of_value : (shape : Shape) → {w : Written} → {v : Value} →
    {a : shape.Carrier} → w.value = .ok v → w.DistinctKeys →
    shape.decode .value (.ofValue v) = .ok a → shape.decode .text w = .ok a
  | .text, w, v, a, hw, _, h => by
    rw [Shape.decode.eq_def] at h ⊢
    cases denotes_of_value hw with
    | string => exact h
    | _ => cases h
  | .optionalText, w, v, a, hw, _, h => by
    rw [Shape.decode.eq_def] at h ⊢
    cases denotes_of_value hw with
    | null | string => exact h
    | _ => cases h
  | .coordinate, w, v, a, hw, _, h => by
    rw [Shape.decode.eq_def] at h ⊢
    cases denotes_of_value hw with
    | number => exact h
    | _ => cases h
  | .count, w, v, a, hw, _, h => by
    rw [Shape.decode.eq_def] at h ⊢
    cases denotes_of_value hw with
    | number => exact h
    | _ => cases h
  | .lenientProperties, w, v, a, hw, _, h => (Shape.lenientProperties.decode_ofValue hw).symm.trans h
  | .properties, w, v, a, hw, hkeys, h => decode_text_properties hw hkeys h
  | .sequence item, w, v, a, hw, hkeys, h => by
    rw [Shape.decode.eq_def] at h ⊢
    cases denotes_of_value hw with
    | @list items values hvalues =>
      obtain ⟨data, hdata, h⟩ := bind_eq_ok.1 h
      cases h
      have hitems := distinctKeys_of_mem_items hkeys
      have htext := mapM_text_of_values hvalues
        (fun w hmem v a hv ha => item.decode_text_of_value hv (hitems w hmem) ha) hdata
      simp only [htext]
      rfl
    | _ => cases h
  | .record name fields, w, v, a, hw, hkeys, h => by
    rw [Shape.decode.eq_def] at h ⊢
    cases denotes_of_value hw with
    | @list items values hvalues =>
      obtain ⟨⟨data, surplus⟩, hdata, h⟩ := bind_eq_ok.1 h
      obtain ⟨_, hclose, h⟩ := bind_eq_ok.1 h
      cases h
      cases surplus with
      | cons w more => cases hclose
      | nil =>
        have htext := fields.decodeItems_text_of_values hvalues (distinctKeys_of_mem_items hkeys)
          hdata
        simp only [htext]
        rfl
    | @object members values hvalues =>
      obtain ⟨slots, hslots, h⟩ := bind_eq_ok.1 h
      rw [foldlM_writtenMembers] at hslots
      have hmembers := distinctKeys_of_mem_members hkeys
      have htext := foldlM_text_of_values hvalues
        (fun m hmem v key slots next hv ha => fields.accept_text_of_value hv (hmembers m hmem) ha)
        (acceptAll_of_ofList (nodup_keys_of_distinctKeys hkeys hvalues) hslots)
      exact bind_eq_ok.2 ⟨slots, htext, h⟩
    | _ => cases h

theorem Fields.accept_text_of_value : (fields : Fields) → {slots : fields.Slots} → {key : String} →
    {w : Written} → {v : Value} → {next : fields.Slots} → w.value = .ok v → w.DistinctKeys →
    fields.accept .value slots key (.ofValue v) = .ok next →
    fields.accept .text slots key w = .ok next
  | .nil, slots, key, w, v, next, hw, _, _ => by
    rw [Fields.accept, passed_of_value hw]
    rfl
  | .cons name required shape rest, (slot, slots), key, w, v, next, hw, hkeys, h => by
    by_cases hkey : key = name
    · subst hkey
      obtain ⟨hslot, a, ha, hnext⟩ := accept_self.1 h
      exact accept_self.2 ⟨hslot, a, shape.decode_text_of_value hw hkeys ha, hnext⟩
    · obtain ⟨r, hr, hnext⟩ := (accept_ne hkey).1 h
      exact (accept_ne hkey).2 ⟨r, rest.accept_text_of_value hw hkeys hr, hnext⟩

theorem Fields.decodeItems_text_of_values : (fields : Fields) → {index : Nat} →
    {expected : String} → {items : List Written} → {values : List Value} →
    {data : fields.Carrier} → itemValues items = .ok values → (∀ w ∈ items, w.DistinctKeys) →
    fields.decodeItems .value index expected none (writtenItems values) = .ok (data, []) →
    fields.decodeItems .text index expected none items = .ok (data, [])
  | .nil, index, expected, items, values, data, hvalues, _, h => by
    cases itemValues_eq_ok_iff.1 hvalues with
    | nil => exact h
    | cons => cases h
  | .cons name true shape rest, index, expected, items, values, data, hvalues, hkeys, h => by
    rw [Fields.decodeItems.eq_def] at h ⊢
    cases itemValues_eq_ok_iff.1 hvalues with
    | nil => cases h
    | cons hw hmore =>
      rw [List.forall_mem_cons] at hkeys
      obtain ⟨a, ha, h⟩ := bind_eq_ok.1 h
      obtain ⟨⟨others, left⟩, hothers, h⟩ := bind_eq_ok.1 h
      cases h
      refine bind_eq_ok.2 ⟨a, shape.decode_text_of_value hw hkeys.1 ha, ?_⟩
      refine bind_eq_ok.2 ⟨(others, []), ?_, rfl⟩
      exact rest.decodeItems_text_of_values (itemValues_eq_ok_iff.2 hmore) hkeys.2 hothers
  | .cons name false shape rest, index, expected, items, values, data, hvalues, hkeys, h => by
    rw [Fields.decodeItems.eq_def] at h ⊢
    cases itemValues_eq_ok_iff.1 hvalues with
    | nil =>
      obtain ⟨_, -, h⟩ := bind_eq_ok.1 h
      obtain ⟨⟨others, left⟩, hothers, h⟩ := bind_eq_ok.1 h
      cases h
      refine bind_eq_ok.2 ⟨(), rfl, bind_eq_ok.2 ⟨(others, []), ?_, rfl⟩⟩
      exact rest.decodeItems_text_of_values hvalues hkeys hothers
    | cons hw hmore =>
      rw [List.forall_mem_cons] at hkeys
      obtain ⟨a, ha, h⟩ := bind_eq_ok.1 h
      obtain ⟨⟨others, left⟩, hothers, h⟩ := bind_eq_ok.1 h
      cases h
      refine bind_eq_ok.2 ⟨a, shape.decode_text_of_value hw hkeys.1 ha, ?_⟩
      refine bind_eq_ok.2 ⟨(others, []), ?_, rfl⟩
      exact rest.decodeItems_text_of_values (itemValues_eq_ok_iff.2 hmore) hkeys.2 hothers

end

/-- **A text that repeats no key** gives the data of the value that it denotes. -/
theorem Shape.ofText_of_value {shape : Shape} {text : List Char} {v : Value} {a : shape.Carrier}
    (hv : Value.ofText text = .ok v) (hkeys : (Document.ofText text).content.DistinctKeys)
    (h : shape.ofValue v = .ok a) : shape.ofText text = .ok a := by
  obtain ⟨hvalue, htrailing⟩ := content_of_ofText hv
  have htext := shape.decode_text_of_value hvalue hkeys h
  simp only [Shape.ofText, htext, htrailing]
  rfl

end CloudDiagram
