import CloudDiagram.Proofs.Json.RoundTrip

/-!
# The compact text of a value

* `chars_eq_spelled`: compact text is the text of a value without any white space;
* `Value.FloatsReadBack`, `Value.reread_eq_self`: a value whose numbers are read as themselves;
* **`ofText_compact`**: compact text denotes the value that it is made of.
-/

namespace CloudDiagram.Json

/-- No white space. -/
def compactGaps : Gaps where
  line _ := []
  colon := []
  line_isGap _ := noGaps
  colon_isGap := noGaps

/-- The items of a list after its first one, to the closing bracket. -/
def laterItems : List Value → List Char
  | [] => [']']
  | v :: rest => ',' :: (itemChars (v :: rest) ++ [']'])

/-- The members of an object after its first one, to the closing brace. -/
def laterMembers : List (String × Value) → List Char
  | [] => ['\x7d']
  | m :: rest => ',' :: (memberChars (m :: rest) ++ ['\x7d'])

theorem itemChars_cons (v : Value) (rest : List Value) :
    itemChars (v :: rest) ++ [']'] = v.chars ++ laterItems rest := by
  cases rest <;> simp [itemChars, laterItems]

theorem memberChars_cons (m : String × Value) (rest : List (String × Value)) :
    memberChars (m :: rest) ++ ['\x7d'] =
      stringChars m.1 ++ ':' :: (m.2.chars ++ laterMembers rest) := by
  cases rest <;> simp [memberChars, laterMembers]

mutual

theorem chars_eq_spelled (level : Nat) (v : Value) : v.chars = v.spelled compactGaps level := by
  cases v with
  | list items =>
    cases items with
    | nil => rfl
    | cons v rest =>
      rw [Value.chars, itemChars_cons, chars_eq_spelled (level + 1) v,
        laterItems_eq_spelled level rest]
      rfl
  | object members =>
    cases members with
    | nil => rfl
    | cons m rest =>
      rw [Value.chars, memberChars_cons, chars_eq_spelled (level + 1) m.2,
        laterMembers_eq_spelled level rest]
      simp [Value.spelled, compactGaps]
  | _ => rfl

theorem laterItems_eq_spelled (level : Nat) (items : List Value) :
    laterItems items = spelledItems compactGaps level items := by
  cases items with
  | nil => rfl
  | cons v rest =>
    rw [laterItems, itemChars_cons, chars_eq_spelled (level + 1) v, laterItems_eq_spelled level rest]
    rfl

theorem laterMembers_eq_spelled (level : Nat) (members : List (String × Value)) :
    laterMembers members = spelledMembers compactGaps level members := by
  cases members with
  | nil => rfl
  | cons m rest =>
    rw [laterMembers, memberChars_cons, chars_eq_spelled (level + 1) m.2,
      laterMembers_eq_spelled level rest]
    simp [spelledMembers, compactGaps]

end

/-! ## Numbers -/

mutual

/-- **The floating-point numbers of the value are read as themselves** from their text. -/
def Value.FloatsReadBack : Value → Prop
  | .number (.float x h) => (Number.float x h).ReadsBack
  | .list items => itemFloatsReadBack items
  | .object members => memberFloatsReadBack members
  | _ => True

/-- The floating-point numbers of items are read as themselves. -/
def itemFloatsReadBack : List Value → Prop
  | [] => True
  | v :: rest => v.FloatsReadBack ∧ itemFloatsReadBack rest

/-- The floating-point numbers of the values of members are read as themselves. -/
def memberFloatsReadBack : List (String × Value) → Prop
  | [] => True
  | (_, v) :: rest => v.FloatsReadBack ∧ memberFloatsReadBack rest

end

mutual

theorem Value.reread_eq_self {v : Value} (h : v.FloatsReadBack) : v.reread = v := by
  cases v with
  | number n =>
    cases n with
    | integer i hi => rw [Value.reread, Number.readsBack_iff_reread.1 (Number.readsBack_integer i hi)]
    | float x hx => rw [Value.reread, Number.readsBack_iff_reread.1 h]
  | list items => rw [Value.reread, itemsReread_eq_self h]
  | object members => rw [Value.reread, membersReread_eq_self h]
  | _ => rfl

theorem itemsReread_eq_self {items : List Value} (h : itemFloatsReadBack items) :
    itemsReread items = items := by
  cases items with
  | nil => rfl
  | cons v rest => rw [itemsReread, Value.reread_eq_self h.1, itemsReread_eq_self h.2]

theorem membersReread_eq_self {members : List (String × Value)} (h : memberFloatsReadBack members) :
    membersReread members = members := by
  cases members with
  | nil => rfl
  | cons m rest => rw [membersReread, Value.reread_eq_self h.1, membersReread_eq_self h.2]

end

/-- **The compact text of a value denotes it**: it is read as the same value again, if the value is in
key order and not nested too deeply and its floating-point numbers are read as themselves. -/
theorem ofText_compact {v : Value} (h : v.Readable 0) (horder : v.inKeyOrder = v)
    (hfloats : v.FloatsReadBack) : Value.ofText v.compact.toList = .ok v := by
  rw [Value.compact, String.toList_ofList, chars_eq_spelled 0, ofText_spelled compactGaps h,
    Value.reread_eq_self hfloats, horder]

end CloudDiagram.Json
