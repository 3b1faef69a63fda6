import CloudDiagram.Proofs.Json.Spelling
import CloudDiagram.Proofs.KeyMap

/-!
# The value of a printed text

* `Value.inKeyOrder`: a value with the members of its objects in key order;
* **`ofText_spelled`**, `ofText_pretty`: the text of a value denotes that value in key order, with the
  numbers that its numbers are read as.
-/

namespace CloudDiagram.Json

mutual

/-- **The value in key order**: of repeated keys the last member counts. -/
def Value.inKeyOrder : Value → Value
  | .list items => .list (itemsInKeyOrder items)
  | .object members => .object (KeyMap.ofList (membersInKeyOrder members)).entries
  | v => v

/-- Items in key order. -/
def itemsInKeyOrder : List Value → List Value
  | [] => []
  | v :: rest => v.inKeyOrder :: itemsInKeyOrder rest

/-- Members whose values are in key order. -/
def membersInKeyOrder : List (String × Value) → List (String × Value)
  | [] => []
  | (k, v) :: rest => (k, v.inKeyOrder) :: membersInKeyOrder rest

end

theorem itemsInKeyOrder_eq_map (items : List Value) :
    itemsInKeyOrder items = items.map Value.inKeyOrder := by
  induction items with
  | nil => rfl
  | cons v rest ih => rw [itemsInKeyOrder, ih, List.map_cons]

theorem membersInKeyOrder_eq_map (members : List (String × Value)) :
    membersInKeyOrder members = members.map fun m => (m.1, m.2.inKeyOrder) := by
  induction members with
  | nil => rfl
  | cons m rest ih => rw [membersInKeyOrder, ih, List.map_cons]

mutual

theorem value_ofValue (v : Value) : (Written.ofValue v).value = .ok v.inKeyOrder := by
  cases v with
  | list items =>
    rw [Written.ofValue, Written.value, itemValues_writtenItems items]
    rfl
  | object members =>
    rw [Written.ofValue, Written.value, memberValues_writtenMembers members]
    rfl
  | _ => rfl

theorem itemValues_writtenItems (items : List Value) :
    itemValues (writtenItems items) = .ok (itemsInKeyOrder items) := by
  cases items with
  | nil => rfl
  | cons v rest =>
    rw [writtenItems, itemValues, value_ofValue v, itemValues_writtenItems rest]
    rfl

theorem memberValues_writtenMembers (members : List (String × Value)) :
    memberValues (writtenMembers members) = .ok (membersInKeyOrder members) := by
  cases members with
  | nil => rfl
  | cons m rest =>
    rw [writtenMembers, memberValues, value_ofValue m.2, memberValues_writtenMembers rest]
    rfl

end

/-- **The text of a value denotes it**, whatever the white space, with the numbers that its numbers are
read as. -/
theorem ofText_spelled (g : Gaps) {v : Value} (h : v.Readable 0) :
    Value.ofText (v.spelled g 0) = .ok v.reread.inKeyOrder := by
  have hread := readValue_spelled g 0 0 v h (3 * (v.spelled g 0).length + 3) (by omega)
    EndsNumber.nil
  rw [List.append_nil] at hread
  exact ofText_of_readValue hread (value_ofValue v.reread) rfl

theorem content_pretty {v : Value} (h : v.Readable 0) :
    (Document.ofText v.pretty.toList).content = .ofValue v.reread := by
  have hread := readValue_spelled prettyGaps 0 0 v h (3 * (v.spelled prettyGaps 0).length + 3)
    (by omega) EndsNumber.nil
  rw [List.append_nil] at hread
  rw [Value.pretty, String.toList_ofList, prettyChars_eq_spelled, Document.ofText, hread]

theorem ofText_pretty {v : Value} (h : v.Readable 0) :
    Value.ofText v.pretty.toList = .ok v.reread.inKeyOrder := by
  rw [Value.pretty, String.toList_ofList, prettyChars_eq_spelled]
  exact ofText_spelled prettyGaps h

end CloudDiagram.Json
