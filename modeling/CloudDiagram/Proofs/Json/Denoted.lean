import Mathlib.Data.List.Forall2
import CloudDiagram.Json.Reader
import CloudDiagram.Proofs.Json.RoundTrip

/-!
# What is written and what it denotes

* `Denotes`, `denotes_of_value`: something written that has a value, by the form of the value;
* `itemValues_eq_ok_iff`, `memberValues_eq_ok_iff`: the values of items and members, one by one;
* `passed_of_value`: what has a value can be passed over;
* **`inKeyOrder_of_value`**: the value is in key order;
* `nodup_keys_of_ofText`: the keys of an object that is read are distinct.
-/

namespace CloudDiagram.Json

/-- **What is written has a value**, and denotes it. -/
inductive Denotes : Written → Value → Prop
  | null : Denotes .null .null
  | bool (b : Bool) : Denotes (.bool b) (.bool b)
  | number (n : Number) : Denotes (.number n) (.number n)
  | string (s : String) : Denotes (.string s) (.string s)
  | list {items : List Written} {values : List Value} (h : itemValues items = .ok values) :
      Denotes (.list items none) (.list values)
  | object {members : List (Except Fault String × Written)} {values : List (String × Value)}
      (h : memberValues members = .ok values) :
      Denotes (.object members none) (.object (KeyMap.ofList values).entries)

theorem denotes_of_value {w : Written} {v : Value} (h : w.value = .ok v) : Denotes w v := by
  cases w with
  | null | bool | number | string =>
    cases h
    constructor
  | list items stop =>
    cases hitems : itemValues items with
    | error f => simp [Written.value, hitems, bind, Except.bind] at h
    | ok values =>
      cases stop with
      | some f => simp [Written.value, hitems, proceed, bind, Except.bind] at h
      | none =>
        simp only [Written.value, hitems] at h
        cases h
        exact .list hitems
  | object members stop =>
    cases hmembers : memberValues members with
    | error f => simp [Written.value, hmembers, bind, Except.bind] at h
    | ok values =>
      cases stop with
      | some f => simp [Written.value, hmembers, proceed, bind, Except.bind] at h
      | none =>
        simp only [Written.value, hmembers] at h
        cases h
        exact .object hmembers
  | broken | unusable => cases h

theorem itemValues_eq_ok_iff {items : List Written} {values : List Value} :
    itemValues items = .ok values ↔ List.Forall₂ (fun w v => w.value = .ok v) items values := by
  induction items generalizing values with
  | nil => cases values <;> simp [itemValues]
  | cons w rest ih =>
    cases hw : w.value <;> cases hrest : itemValues rest <;> cases values <;>
      simp [itemValues, hw, hrest, ← ih, bind, Except.bind, pure, Except.pure]

theorem memberValues_eq_ok_iff {members : List (Except Fault String × Written)}
    {values : List (String × Value)} : memberValues members = .ok values ↔
      List.Forall₂ (fun m e => m.1 = .ok e.1 ∧ m.2.value = .ok e.2) members values := by
  induction members generalizing values with
  | nil => cases values <;> simp [memberValues]
  | cons m rest ih =>
    obtain ⟨key, w⟩ := m
    cases key <;> cases hw : w.value <;> cases hrest : memberValues rest <;> cases values <;>
      simp [memberValues, hw, hrest, ← ih, bind, Except.bind, pure, Except.pure, Prod.ext_iff]

theorem writtenItems_eq_map (items : List Value) : writtenItems items = items.map .ofValue := by
  induction items with
  | nil => rfl
  | cons v rest ih => rw [writtenItems, ih, List.map_cons]

theorem writtenMembers_eq_map (members : List (String × Value)) :
    writtenMembers members = members.map fun m => (.ok m.1, .ofValue m.2) := by
  induction members with
  | nil => rfl
  | cons m rest ih => rw [writtenMembers, ih, List.map_cons]

mutual

theorem passed_of_value {w : Written} {v : Value} (h : w.value = .ok v) : w.passed = .ok () := by
  cases w with
  | list items stop =>
    cases denotes_of_value h with
    | list hitems =>
      rw [Written.passed, itemsPassed_of_values hitems]
      rfl
  | object members stop =>
    cases denotes_of_value h with
    | object hmembers =>
      rw [Written.passed, membersPassed_of_values hmembers]
      rfl
  | broken | unusable => cases h
  | _ => rfl

theorem itemsPassed_of_values {items : List Written} {values : List Value}
    (h : itemValues items = .ok values) : itemsPassed items = .ok () := by
  cases items with
  | nil => rfl
  | cons w rest =>
    cases itemValues_eq_ok_iff.1 h with
    | cons hw hrest =>
      rw [itemsPassed, passed_of_value hw, itemsPassed_of_values (itemValues_eq_ok_iff.2 hrest)]
      rfl

theorem membersPassed_of_values {members : List (Except Fault String × Written)}
    {values : List (String × Value)} (h : memberValues members = .ok values) :
    membersPassed members = .ok () := by
  cases members with
  | nil => rfl
  | cons m rest =>
    cases memberValues_eq_ok_iff.1 h with
    | cons hm hrest =>
      rw [membersPassed, passed_of_value hm.2,
        membersPassed_of_values (memberValues_eq_ok_iff.2 hrest)]
      rfl

end

theorem membersInKeyOrder_ofList {values : List (String × Value)}
    (h : ∀ e ∈ values, e.2.inKeyOrder = e.2) :
    membersInKeyOrder (KeyMap.ofList values).entries = (KeyMap.ofList values).entries := by
  rw [membersInKeyOrder_eq_map]
  refine (List.map_congr_left fun e he => ?_).trans (List.map_id' _)
  rw [h e (KeyMap.mem_of_mem_ofList he)]

mutual

theorem inKeyOrder_of_value {w : Written} {v : Value} (h : w.value = .ok v) : v.inKeyOrder = v := by
  cases w with
  | list items stop =>
    cases denotes_of_value h with
    | list hitems =>
      rw [Value.inKeyOrder, itemsInKeyOrder_eq_map,
        List.map_congr_left (itemsInKeyOrder_of_values hitems), List.map_id']
  | object members stop =>
    cases denotes_of_value h with
    | @object members values hmembers =>
      rw [Value.inKeyOrder, membersInKeyOrder_ofList (membersInKeyOrder_of_values hmembers),
        KeyMap.ofList_entries]
  | broken | unusable => cases h
  | _ =>
    cases denotes_of_value h
    rfl

theorem itemsInKeyOrder_of_values {items : List Written} {values : List Value}
    (h : itemValues items = .ok values) : ∀ v ∈ values, v.inKeyOrder = v := by
  cases items with
  | nil =>
    cases h
    simp
  | cons w rest =>
    cases itemValues_eq_ok_iff.1 h with
    | cons hw hrest =>
      exact List.forall_mem_cons.2
        ⟨inKeyOrder_of_value hw, itemsInKeyOrder_of_values (itemValues_eq_ok_iff.2 hrest)⟩

theorem membersInKeyOrder_of_values {members : List (Except Fault String × Written)}
    {values : List (String × Value)} (h : memberValues members = .ok values) :
    ∀ e ∈ values, e.2.inKeyOrder = e.2 := by
  cases members with
  | nil =>
    cases h
    simp
  | cons m rest =>
    cases memberValues_eq_ok_iff.1 h with
    | cons hm hrest =>
      exact List.forall_mem_cons.2
        ⟨inKeyOrder_of_value hm.2, membersInKeyOrder_of_values (memberValues_eq_ok_iff.2 hrest)⟩

end

theorem memberValues_writtenMembers_ofList {members : List (Except Fault String × Written)}
    {values : List (String × Value)} (h : memberValues members = .ok values) :
    memberValues (writtenMembers (KeyMap.ofList values).entries) =
      .ok (KeyMap.ofList values).entries := by
  rw [memberValues_writtenMembers, membersInKeyOrder_ofList (membersInKeyOrder_of_values h)]

theorem content_of_ofText {text : List Char} {v : Value} (h : Value.ofText text = .ok v) :
    (Document.ofText text).content.value = .ok v ∧ (Document.ofText text).trailing = none := by
  unfold Value.ofText at h
  dsimp only at h
  generalize Document.ofText text = d at h ⊢
  cases hvalue : d.content.value with
  | error f => simp [hvalue, bind, Except.bind] at h
  | ok u =>
    cases htrailing : d.trailing with
    | some f => simp [hvalue, htrailing, proceed, bind, Except.bind] at h
    | none =>
      simp only [hvalue, htrailing] at h
      cases h
      exact ⟨rfl, rfl⟩

/-- **The keys of an object that is read are distinct.** -/
theorem nodup_keys_of_ofText {text : List Char} {members : List (String × Value)}
    (h : Value.ofText text = .ok (.object members)) : (members.map Prod.fst).Nodup := by
  have hvalue := (content_of_ofText h).1
  generalize (Document.ofText text).content = w at hvalue
  cases denotes_of_value hvalue
  exact KeyMap.nodup_keys _

end CloudDiagram.Json
