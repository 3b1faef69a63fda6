import CloudDiagram.Proofs.Json.Quoted
import CloudDiagram.Proofs.Json.Reread

/-!
# Values read from their text

The compact and the pretty text of a value differ in white space only.

* `Gaps`, `Value.spelled`: the text of a value with white space of any kind, and
  `prettyChars_eq_spelled`;
* `Value.Readable`: a value that is not nested too deeply;
* `Value.reread`: a value with the numbers that its numbers are read as;
* **`readValue_spelled`**: such a value is read from its text, with these numbers.
-/

namespace CloudDiagram.Json

/-- **The white space of a text**: before an item or a closing bracket at a level, and after a
colon. -/
structure Gaps where
  line : Nat → List Char
  colon : List Char
  line_isGap : ∀ level, ∀ c ∈ line level, isGap c = true
  colon_isGap : ∀ c ∈ colon, isGap c = true

mutual

/-- **The text of a value** with some white space. -/
def Value.spelled (g : Gaps) (level : Nat) : Value → List Char
  | .list [] => ['[', ']']
  | .list (v :: rest) =>
    '[' :: (g.line (level + 1) ++ v.spelled g (level + 1) ++ spelledItems g level rest)
  | .object [] => ['\x7b', '\x7d']
  | .object ((k, v) :: rest) =>
    '\x7b' :: (g.line (level + 1) ++ stringChars k ++ ':' :: (g.colon ++ v.spelled g (level + 1)) ++
      spelledMembers g level rest)
  | v => v.chars

/-- The items of a list after its first one, to the closing bracket. -/
def spelledItems (g : Gaps) (level : Nat) : List Value → List Char
  | [] => g.line level ++ [']']
  | v :: rest =>
    ',' :: (g.line (level + 1) ++ v.spelled g (level + 1) ++ spelledItems g level rest)

/-- The members of an object after its first one, to the closing brace. -/
def spelledMembers (g : Gaps) (level : Nat) : List (String × Value) → List Char
  | [] => g.line level ++ ['\x7d']
  | (k, v) :: rest =>
    ',' :: (g.line (level + 1) ++ stringChars k ++ ':' :: (g.colon ++ v.spelled g (level + 1)) ++
      spelledMembers g level rest)

end

/-- The white space of pretty text. -/
def prettyGaps : Gaps where
  line := newLine
  colon := [' ']
  line_isGap level c h := by
    rcases List.mem_cons.1 h with rfl | h
    · rfl
    · rw [List.eq_of_mem_replicate h]
      rfl
  colon_isGap c h := by
    rw [List.mem_singleton.1 h]
    rfl

mutual

theorem prettyChars_eq_spelled (level : Nat) (v : Value) :
    v.prettyChars level = v.spelled prettyGaps level := by
  cases v with
  | list items =>
    cases items with
    | nil => rfl
    | cons v rest =>
      simp only [Value.prettyChars, Value.spelled, prettyChars_eq_spelled (level + 1) v,
        prettyItems_eq_spelled level rest]
      rfl
  | object members =>
    cases members with
    | nil => rfl
    | cons m rest =>
      simp only [Value.prettyChars, Value.spelled, prettyChars_eq_spelled (level + 1) m.2,
        prettyMembers_eq_spelled level rest]
      rfl
  | _ => rfl

theorem prettyItems_eq_spelled (level : Nat) (items : List Value) :
    prettyItems level items = spelledItems prettyGaps level items := by
  cases items with
  | nil => rfl
  | cons v rest =>
    simp only [prettyItems, spelledItems, prettyChars_eq_spelled (level + 1) v,
      prettyItems_eq_spelled level rest]
    rfl

theorem prettyMembers_eq_spelled (level : Nat) (members : List (String × Value)) :
    prettyMembers level members = spelledMembers prettyGaps level members := by
  cases members with
  | nil => rfl
  | cons m rest =>
    simp only [prettyMembers, spelledMembers, prettyChars_eq_spelled (level + 1) m.2,
      prettyMembers_eq_spelled level rest]
    rfl

end

/-! ## Reading -/

mutual

/-- **The value can be read where some lists and objects are open**: not too many are open in it. -/
def Value.Readable (depth : Nat) : Value → Prop
  | .list items => depth < depthLimit ∧ itemsReadable (depth + 1) items
  | .object members => depth < depthLimit ∧ membersReadable (depth + 1) members
  | _ => True

/-- The items can be read. -/
def itemsReadable (depth : Nat) : List Value → Prop
  | [] => True
  | v :: rest => v.Readable depth ∧ itemsReadable depth rest

/-- The values of the members can be read. -/
def membersReadable (depth : Nat) : List (String × Value) → Prop
  | [] => True
  | (_, v) :: rest => v.Readable depth ∧ membersReadable depth rest

end

mutual

/-- **The value with the numbers that its numbers are read as.** -/
def Value.reread : Value → Value
  | .number n => .number n.reread
  | .list items => .list (itemsReread items)
  | .object members => .object (membersReread members)
  | v => v

/-- Items with the numbers that their numbers are read as. -/
def itemsReread : List Value → List Value
  | [] => []
  | v :: rest => v.reread :: itemsReread rest

/-- Members with the numbers that their numbers are read as. -/
def membersReread : List (String × Value) → List (String × Value)
  | [] => []
  | (k, v) :: rest => (k, v.reread) :: membersReread rest

end

theorem itemsReread_eq_map (items : List Value) : itemsReread items = items.map Value.reread := by
  induction items with
  | nil => rfl
  | cons v rest ih => rw [itemsReread, ih, List.map_cons]

theorem membersReread_eq_map (members : List (String × Value)) :
    membersReread members = members.map fun m => (m.1, m.2.reread) := by
  induction members with
  | nil => rfl
  | cons m rest ih => rw [membersReread, ih, List.map_cons]

theorem itemsReadable_iff {depth : Nat} {items : List Value} :
    itemsReadable depth items ↔ ∀ v ∈ items, v.Readable depth := by
  induction items with
  | nil => simp [itemsReadable]
  | cons v rest ih => simp [itemsReadable, ih]

theorem membersReadable_iff {depth : Nat} {members : List (String × Value)} :
    membersReadable depth members ↔ ∀ m ∈ members, m.2.Readable depth := by
  induction members with
  | nil => simp [membersReadable]
  | cons m rest ih => simp [membersReadable, ih]

theorem exists_spelled_eq_cons (g : Gaps) (level : Nat) (v : Value) :
    ∃ c s, v.spelled g level = c :: s ∧ isGap c = false ∧ c ≠ ']' := by
  cases v with
  | null => exact ⟨_, _, rfl, rfl, by decide⟩
  | bool b => cases b <;> exact ⟨_, _, rfl, rfl, by decide⟩
  | number n =>
    obtain ⟨c, s, hcs⟩ := List.exists_cons_of_ne_nil n.chars_ne_nil
    have hc : isNumberChar c = true :=
      isNumberChar_of_mem_chars (n := n) (by rw [hcs]; exact List.mem_cons_self)
    have hclose : c ≠ ']' := fun e => by simp [e, isNumberChar, Text.isDigit] at hc
    exact ⟨c, s, hcs, isGap_of_isNumberChar hc, hclose⟩
  | string s => exact ⟨_, _, rfl, rfl, by decide⟩
  | list items => cases items <;> exact ⟨_, _, rfl, rfl, by decide⟩
  | object members => cases members <;> exact ⟨_, _, rfl, rfl, by decide⟩

theorem readValue_gaps {gaps : List Char} (h : ∀ c ∈ gaps, isGap c = true) (fuel depth : Nat)
    (text : List Char) : readValue fuel depth (gaps ++ text) = readValue fuel depth text := by
  cases fuel with
  | zero => simp only [readValue]
  | succ fuel => simp only [readValue, skipGaps_append h]

theorem noGaps : ∀ c ∈ ([] : List Char), isGap c = true := fun _ h => nomatch h

theorem readItems_opening {gaps : List Char} (h : ∀ c ∈ gaps, isGap c = true) {c : Char}
    (hc : isGap c = false) (hclose : c ≠ ']') (fuel depth : Nat) (s : List Char) :
    readItems (fuel + 1) depth true (gaps ++ c :: s) = readItem fuel depth (c :: s) := by
  simp only [readItems, skipGaps_append h, skipGaps_cons hc, hclose, if_false, if_true]

theorem readItems_comma {gaps : List Char} (h : ∀ c ∈ gaps, isGap c = true) {c : Char}
    (hc : isGap c = false) (hclose : c ≠ ']') (fuel depth : Nat) (s : List Char) :
    readItems (fuel + 1) depth false (',' :: (gaps ++ c :: s)) = readItem fuel depth (c :: s) := by
  have hcomma : isGap ',' = false := by decide
  simp [readItems, skipGaps_append h, skipGaps_cons hc, skipGaps_cons hcomma, hclose]

theorem readItems_close {gaps : List Char} (h : ∀ c ∈ gaps, isGap c = true) (opening : Bool)
    (fuel depth : Nat) (rest : List Char) :
    readItems (fuel + 1) depth opening (gaps ++ ']' :: rest) = ([], none, some rest) := by
  have hbracket : isGap ']' = false := by decide
  simp only [readItems, skipGaps_append h, skipGaps_cons hbracket, if_true]

theorem readMembers_opening {gaps : List Char} (h : ∀ c ∈ gaps, isGap c = true)
    (fuel depth : Nat) (s : List Char) :
    readMembers (fuel + 1) depth true (gaps ++ '"' :: s) = readMember fuel depth s := by
  have hquote : isGap '"' = false := by decide
  simp [readMembers, skipGaps_append h, skipGaps_cons hquote]

theorem readMembers_comma {gaps : List Char} (h : ∀ c ∈ gaps, isGap c = true)
    (fuel depth : Nat) (s : List Char) :
    readMembers (fuel + 1) depth false (',' :: (gaps ++ '"' :: s)) = readMember fuel depth s := by
  have hcomma : isGap ',' = false := by decide
  have hquote : isGap '"' = false := by decide
  simp [readMembers, skipGaps_append h, skipGaps_cons hcomma, skipGaps_cons hquote]

theorem readMembers_close {gaps : List Char} (h : ∀ c ∈ gaps, isGap c = true) (opening : Bool)
    (fuel depth : Nat) (rest : List Char) :
    readMembers (fuel + 1) depth opening (gaps ++ '\x7d' :: rest) = ([], none, some rest) := by
  have hbrace : isGap '\x7d' = false := by decide
  simp only [readMembers, skipGaps_append h, skipGaps_cons hbrace, if_true]

theorem readItem_of_readValue {fuel depth : Nat} {text last : List Char} {w : Written}
    (hread : readValue fuel depth text = (w, some last)) {items : List Written}
    {left : Option (List Char)} (hitems : readItems fuel depth false last = (items, none, left)) :
    readItem (fuel + 1) depth text = (w :: items, none, left) := by
  simp only [readItem, hread, hitems]

theorem readMember_of_readValue (key : String) {fuel depth : Nat} (hkey : key.toList.length < fuel)
    {text last : List Char} {w : Written} (hread : readValue fuel depth text = (w, some last))
    {members : List (Except Fault String × Written)} {left : Option (List Char)}
    (hmembers : readMembers fuel depth false last = (members, none, left)) :
    readMember (fuel + 1) depth (key.toList.flatMap escapeChar ++ '"' :: ':' :: text) =
      ((.ok key, w) :: members, none, left) := by
  have hcolon : isGap ':' = false := by decide
  simp only [readMember, scanString_stringChars key.toList _ hkey, skipGaps_cons hcolon, if_true,
    hread, hmembers, String.ofList_toList]

theorem readValue_stringChars (s rest : List Char) {fuel : Nat} (hfuel : s.length < fuel)
    (depth : Nat) :
    readValue (fuel + 1) depth ('"' :: (s.flatMap escapeChar ++ '"' :: rest)) =
      (.string (String.ofList s), some rest) := by
  have hquote : isGap '"' = false := by decide
  simp only [readValue, skipGaps_cons hquote, if_true, scanString_stringChars s rest hfuel,
    Scan.reading]

/-- **A list is read when its items are**, unless it is nested too deeply. -/
theorem readValue_of_readItems {fuel depth : Nat} (hdepth : depth < depthLimit) {text : List Char}
    {items : List Written} {left : Option (List Char)}
    (h : readItems fuel (depth + 1) true text = (items, none, left)) :
    readValue (fuel + 1) depth ('[' :: text) = (.list items none, left) := by
  have hbracket : isGap '[' = false := by decide
  simp [readValue, skipGaps_cons hbracket, h, atDepth, hdepth]

theorem readValue_of_readMembers {fuel depth : Nat} (hdepth : depth < depthLimit) {text : List Char}
    {members : List (Except Fault String × Written)} {left : Option (List Char)}
    (h : readMembers fuel (depth + 1) true text = (members, none, left)) :
    readValue (fuel + 1) depth ('\x7b' :: text) = (.object members none, left) := by
  have hbrace : isGap '\x7b' = false := by decide
  simp [readValue, skipGaps_cons hbrace, h, atDepth, hdepth]

theorem endsNumber_gaps {gaps : List Char} (h : ∀ c ∈ gaps, isGap c = true) {rest : List Char}
    (hrest : EndsNumber rest) : EndsNumber (gaps ++ rest) := by
  cases gaps with
  | nil => exact hrest
  | cons c gaps =>
    apply EndsNumber.cons
    rw [Bool.eq_false_iff]
    intro hc
    have hgap := h c List.mem_cons_self
    rw [isGap_of_isNumberChar hc] at hgap
    exact Bool.noConfusion hgap

theorem endsNumber_spelledItems (g : Gaps) (level : Nat) (items : List Value) (rest : List Char) :
    EndsNumber (spelledItems g level items ++ rest) := by
  cases items with
  | nil =>
    rw [spelledItems, List.append_assoc]
    exact endsNumber_gaps (g.line_isGap level) (EndsNumber.cons (by decide))
  | cons v items => exact EndsNumber.cons (by decide)

theorem endsNumber_spelledMembers (g : Gaps) (level : Nat) (members : List (String × Value))
    (rest : List Char) : EndsNumber (spelledMembers g level members ++ rest) := by
  cases members with
  | nil =>
    rw [spelledMembers, List.append_assoc]
    exact endsNumber_gaps (g.line_isGap level) (EndsNumber.cons (by decide))
  | cons m members => exact EndsNumber.cons (by decide)

mutual

/-- **A value is read from its text**, with the numbers that its numbers are read as. -/
theorem readValue_spelled (g : Gaps) (level depth : Nat) (v : Value) (hv : v.Readable depth)
    (fuel : Nat) (hfuel : 3 * (v.spelled g level).length ≤ fuel) {rest : List Char}
    (hrest : EndsNumber rest) :
    readValue fuel depth (v.spelled g level ++ rest) = (.ofValue v.reread, some rest) := by
  obtain ⟨fuel, rfl⟩ : ∃ m, fuel = m + 1 := by
    obtain ⟨c, s, hcs, -⟩ := exists_spelled_eq_cons g level v
    rw [hcs, List.length_cons] at hfuel
    exact ⟨fuel - 1, by omega⟩
  cases v with
  | null => simp [Value.spelled, Value.chars, readValue, skipGaps_cons, isGap, readLiteral,
      Value.reread, Written.ofValue, Text.isDigit]
  | bool b =>
    cases b <;> simp [Value.spelled, Value.chars, readValue, skipGaps_cons, isGap, readLiteral,
      Value.reread, Written.ofValue, Text.isDigit]
  | number n => exact readValue_number n fuel depth hrest
  | string s =>
    have hlength := length_le_length_flatMap_escapeChar s.toList
    simp only [Value.spelled, Value.chars, stringChars, List.length_cons, List.length_append,
      List.length_nil] at hfuel
    have hfits : s.toList.length < fuel := by omega
    have hread := readValue_stringChars s.toList rest hfits depth
    rw [String.ofList_toList] at hread
    simp only [Value.spelled, Value.chars, stringChars, List.cons_append, List.append_assoc,
      List.nil_append]
    exact hread
  | list items =>
    cases items with
    | nil =>
      obtain ⟨fuel, rfl⟩ : ∃ m, fuel = m + 1 := by
        simp only [Value.spelled, List.length_cons, List.length_nil] at hfuel
        exact ⟨fuel - 1, by omega⟩
      exact readValue_of_readItems hv.1 (readItems_close noGaps true fuel (depth + 1) rest)
    | cons v items =>
      obtain ⟨hv', hitems⟩ := hv.2
      simp only [Value.spelled, List.length_cons, List.length_append] at hfuel
      obtain ⟨c, s, hcs, hgap, hclose⟩ := exists_spelled_eq_cons g (level + 1) v
      obtain ⟨fuel, rfl⟩ : ∃ m, fuel = m + 2 := ⟨fuel - 2, by omega⟩
      have hread := readValue_spelled g (level + 1) (depth + 1) v hv' fuel (by omega)
        (endsNumber_spelledItems g level items rest)
      have hrest := readItems_spelled g level (depth + 1) items hitems fuel (by omega) rest
      have hitem := readItem_of_readValue hread hrest
      simp only [Value.spelled, hcs, List.cons_append, List.append_assoc] at hitem ⊢
      rw [← readItems_opening (g.line_isGap _) hgap hclose] at hitem
      exact readValue_of_readItems hv.1 hitem
  | object members =>
    cases members with
    | nil =>
      obtain ⟨fuel, rfl⟩ : ∃ m, fuel = m + 1 := by
        simp only [Value.spelled, List.length_cons, List.length_nil] at hfuel
        exact ⟨fuel - 1, by omega⟩
      exact readValue_of_readMembers hv.1 (readMembers_close noGaps true fuel (depth + 1) rest)
    | cons m members =>
      obtain ⟨k, u⟩ := m
      obtain ⟨hu, hmembers⟩ := hv.2
      have hkey := length_le_length_flatMap_escapeChar k.toList
      simp only [Value.spelled, stringChars, List.length_cons, List.length_append,
        List.length_nil] at hfuel
      obtain ⟨fuel, rfl⟩ : ∃ m, fuel = m + 2 := ⟨fuel - 2, by omega⟩
      have hread := readValue_spelled g (level + 1) (depth + 1) u hu fuel (by omega)
        (endsNumber_spelledMembers g level members rest)
      rw [← readValue_gaps g.colon_isGap] at hread
      have hrest := readMembers_spelled g level (depth + 1) members hmembers fuel (by omega) rest
      have hmember := readMember_of_readValue k (by omega) hread hrest
      rw [← readMembers_opening (g.line_isGap _)] at hmember
      simp only [Value.spelled, stringChars, List.cons_append, List.append_assoc, List.nil_append]
      exact readValue_of_readMembers hv.1 hmember

theorem readItems_spelled (g : Gaps) (level depth : Nat) (items : List Value)
    (hitems : itemsReadable depth items) (fuel : Nat)
    (hfuel : 3 * (spelledItems g level items).length ≤ fuel) (rest : List Char) :
    readItems fuel depth false (spelledItems g level items ++ rest) =
      (writtenItems (itemsReread items), none, some rest) := by
  obtain ⟨fuel, rfl⟩ : ∃ m, fuel = m + 1 := by
    cases items <;> simp only [spelledItems, List.length_cons, List.length_append] at hfuel <;>
      exact ⟨fuel - 1, by omega⟩
  cases items with
  | nil =>
    rw [spelledItems, List.append_assoc]
    exact readItems_close (g.line_isGap level) false fuel depth rest
  | cons v items =>
    obtain ⟨hv, hitems⟩ := hitems
    simp only [spelledItems, List.length_cons, List.length_append] at hfuel
    obtain ⟨c, s, hcs, hgap, hclose⟩ := exists_spelled_eq_cons g (level + 1) v
    obtain ⟨fuel, rfl⟩ : ∃ m, fuel = m + 1 := ⟨fuel - 1, by omega⟩
    have hread := readValue_spelled g (level + 1) depth v hv fuel (by omega)
      (endsNumber_spelledItems g level items rest)
    have hrest := readItems_spelled g level depth items hitems fuel (by omega) rest
    have hitem := readItem_of_readValue hread hrest
    rw [hcs] at hitem
    rw [spelledItems, hcs]
    simp only [List.cons_append, List.append_assoc] at hitem ⊢
    rw [readItems_comma (g.line_isGap _) hgap hclose, hitem]
    rfl

theorem readMembers_spelled (g : Gaps) (level depth : Nat) (members : List (String × Value))
    (hmembers : membersReadable depth members) (fuel : Nat)
    (hfuel : 3 * (spelledMembers g level members).length ≤ fuel) (rest : List Char) :
    readMembers fuel depth false (spelledMembers g level members ++ rest) =
      (writtenMembers (membersReread members), none, some rest) := by
  obtain ⟨fuel, rfl⟩ : ∃ m, fuel = m + 1 := by
    cases members <;> simp only [spelledMembers, List.length_cons, List.length_append] at hfuel <;>
      exact ⟨fuel - 1, by omega⟩
  cases members with
  | nil =>
    rw [spelledMembers, List.append_assoc]
    exact readMembers_close (g.line_isGap level) false fuel depth rest
  | cons m members =>
    obtain ⟨k, u⟩ := m
    obtain ⟨hu, hmembers⟩ := hmembers
    have hkey := length_le_length_flatMap_escapeChar k.toList
    simp only [spelledMembers, stringChars, List.length_cons, List.length_append,
      List.length_nil] at hfuel
    obtain ⟨fuel, rfl⟩ : ∃ m, fuel = m + 1 := ⟨fuel - 1, by omega⟩
    have hread := readValue_spelled g (level + 1) depth u hu fuel (by omega)
      (endsNumber_spelledMembers g level members rest)
    rw [← readValue_gaps g.colon_isGap] at hread
    have hrest := readMembers_spelled g level depth members hmembers fuel (by omega) rest
    have hmember := readMember_of_readValue k (by omega) hread hrest
    simp only [spelledMembers, stringChars, List.cons_append, List.append_assoc, List.nil_append]
    rw [readMembers_comma (g.line_isGap _), hmember]
    rfl

end

end CloudDiagram.Json
