import CloudDiagram.Proofs.Json.Denoted

/-!
# How deeply a value is nested that is read

* `Within`: something written that stands in something else;
* `Written.Shallow`, `readsShallow`: what stands in what is read at a depth can be read there;
* **`readable_of_within`**: whatever stands in a text that is read has a value that can be read from a
  text of its own.
-/

namespace CloudDiagram.Json

/-! ## What stands in what is written -/

/-- **Something written stands in something else**, at whatever depth. -/
inductive Within : Written → Written → Prop
  | refl (w : Written) : Within w w
  | item {w item : Written} {items : List Written} {stop : Option Fault} (hitem : item ∈ items)
      (h : Within w item) : Within w (.list items stop)
  | member {w : Written} {m : Except Fault String × Written}
      {members : List (Except Fault String × Written)} {stop : Option Fault} (hmember : m ∈ members)
      (h : Within w m.2) : Within w (.object members stop)

theorem Within.trans {u w whole : Written} (huw : Within u w) (h : Within w whole) :
    Within u whole := by
  induction h with
  | refl => exact huw
  | item hitem _ ih => exact .item hitem ih
  | member hmember _ ih => exact .member hmember ih

theorem exists_mem_of_forall₂ {α β : Type} {R : α → β → Prop} {xs : List α} {ys : List β}
    (h : List.Forall₂ R xs ys) {y : β} (hy : y ∈ ys) : ∃ x ∈ xs, R x y := by
  induction h with
  | nil => cases hy
  | @cons x y' xs ys hxy _ ih =>
    obtain rfl | hy := List.mem_cons.1 hy
    · exact ⟨x, List.mem_cons_self, hxy⟩
    · obtain ⟨x', hx', hR⟩ := ih hy
      exact ⟨x', List.mem_cons_of_mem x hx', hR⟩

theorem exists_value_of_within {w whole : Written} (h : Within w whole) {v : Value}
    (hv : whole.value = .ok v) : ∃ u, w.value = .ok u := by
  induction h generalizing v with
  | refl => exact ⟨v, hv⟩
  | item hitem _ ih =>
    cases denotes_of_value hv with
    | list hvalues =>
      obtain ⟨u, -, hu⟩ := exists_mem_of_forall₂ (itemValues_eq_ok_iff.1 hvalues).flip hitem
      exact ih hu
  | member hmember _ ih =>
    cases denotes_of_value hv with
    | object hvalues =>
      obtain ⟨e, -, -, he⟩ := exists_mem_of_forall₂ (memberValues_eq_ok_iff.1 hvalues).flip hmember
      exact ih he

mutual

theorem Value.Readable.mono {depth less : Nat} (hle : less ≤ depth) {v : Value}
    (h : v.Readable depth) : v.Readable less := by
  cases v with
  | list items => exact ⟨Nat.lt_of_le_of_lt hle h.1, itemsReadable_mono (Nat.succ_le_succ hle) h.2⟩
  | object members =>
    exact ⟨Nat.lt_of_le_of_lt hle h.1, membersReadable_mono (Nat.succ_le_succ hle) h.2⟩
  | _ => trivial

theorem itemsReadable_mono {depth less : Nat} (hle : less ≤ depth) {items : List Value}
    (h : itemsReadable depth items) : itemsReadable less items := by
  cases items with
  | nil => trivial
  | cons v rest => exact ⟨h.1.mono hle, itemsReadable_mono hle h.2⟩

theorem membersReadable_mono {depth less : Nat} (hle : less ≤ depth)
    {members : List (String × Value)} (h : membersReadable depth members) :
    membersReadable less members := by
  cases members with
  | nil => trivial
  | cons m rest => exact ⟨h.1.mono hle, membersReadable_mono hle h.2⟩

end

/-- **Whatever stands in what is written has no value, or one that can be read** where some lists and
objects are open. -/
def Written.Shallow (depth : Nat) (w : Written) : Prop :=
  ∀ u v, Within u w → u.value = .ok v → v.Readable depth

/-- Nothing stands in what is written. -/
def Written.IsFlat : Written → Prop
  | .list _ _ => False
  | .object _ _ => False
  | _ => True

variable {depth : Nat} {w : Written}

theorem shallow_of_isFlat (h : w.IsFlat) : w.Shallow depth := by
  intro u v hu hv
  cases hu with
  | refl =>
    cases denotes_of_value hv with
    | list | object => exact h.elim
    | _ => trivial
  | item | member => exact h.elim

/-! ## Numerals, strings and literals -/

theorem isFlat_ofBinary64 (x : Binary64) : (Written.ofBinary64 x).IsFlat := by
  unfold Written.ofBinary64
  split <;> trivial

theorem isFlat_dite {p : Prop} [Decidable p] {yes : p → Written} {no : ¬ p → Written}
    (hyes : ∀ h, (yes h).IsFlat) (hno : ∀ h, (no h).IsFlat) : (dite p yes no).IsFlat := by
  split
  · exact hyes _
  · exact hno _

theorem isFlat_ofInteger (negative : Bool) (n : Nat) : (Written.ofInteger negative n).IsFlat :=
  isFlat_dite (fun _ => trivial) fun _ => isFlat_ofBinary64 _

theorem isFlat_ofScaled (negative : Bool) (s : Scaled) (rest : List Char) :
    (Reading.ofScaled negative s rest).1.IsFlat := by
  unfold Reading.ofScaled
  split
  · exact isFlat_ofBinary64 _
  · trivial

theorem isFlat_readExponent (negative : Bool) (s : Scaled) (raises : Bool) (digits : List Char) :
    (readExponent negative s raises digits).1.IsFlat := by
  unfold readExponent
  split
  · trivial
  · split
    · trivial
    · dsimp only
      split
      · exact isFlat_ofScaled _ _ _
      · split
        · trivial
        · exact isFlat_ofBinary64 (.ofRank negative 0 (Nat.zero_le _))

theorem isFlat_readScale (negative : Bool) (s : Scaled) (text : List Char) {other : Reading}
    (h : other.1.IsFlat) : ((readScale negative s text).getD other).1.IsFlat := by
  unfold readScale
  split
  · split
    · rw [Option.getD_some]
      split <;> exact isFlat_readExponent _ _ _ _
    · exact h
  · exact h

theorem isFlat_readFraction (negative : Bool) (before rest : List Char) :
    (readFraction negative before rest).1.IsFlat := by
  unfold readFraction
  split
  · split
    · trivial
    · split
      · trivial
      · exact isFlat_readScale _ _ _ (isFlat_ofScaled _ _ _)
  · refine isFlat_readScale _ _ _ ?_
    split
    · exact isFlat_ofInteger _ _
    · exact isFlat_ofScaled _ _ _

theorem isFlat_readNumeral (negative : Bool) (text : List Char) :
    (readNumeral negative text).1.IsFlat := by
  unfold readNumeral
  split
  · trivial
  · split
    · trivial
    · split
      · trivial
      · exact isFlat_readFraction _ _ _

theorem isFlat_reading (s : Scan) : s.reading.1.IsFlat := by
  unfold Scan.reading
  split <;> trivial

theorem isFlat_readLiteral (h : w.IsFlat) (letters text : List Char) :
    (readLiteral w letters text).1.IsFlat := by
  induction letters generalizing text with
  | nil => exact h
  | cons e letters ih =>
    cases text with
    | nil => trivial
    | cons c rest =>
      rw [readLiteral]
      split
      · exact ih rest
      · trivial

/-! ## Lists and objects -/

theorem shallow_list {items : List Written} (h : ∀ w ∈ items, w.Shallow (depth + 1))
    (stop : Option Fault) (text : List Char) :
    (atDepth depth text (.list items stop)).Shallow depth := by
  intro u v hu hv
  unfold atDepth at hu
  split at hu
  · rename_i hdepth
    cases hu with
    | refl =>
      cases denotes_of_value hv with
      | list hvalues =>
        refine ⟨hdepth, itemsReadable_iff.2 fun x hx => ?_⟩
        obtain ⟨w, hw, hvalue⟩ := exists_mem_of_forall₂ (itemValues_eq_ok_iff.1 hvalues) hx
        exact h w hw w x (.refl w) hvalue
    | item hitem hwithin => exact (h _ hitem u v hwithin hv).mono (Nat.le_succ depth)
  · cases hu
    cases hv

theorem shallow_object {members : List (Except Fault String × Written)}
    (h : ∀ m ∈ members, m.2.Shallow (depth + 1)) (stop : Option Fault) (text : List Char) :
    (atDepth depth text (.object members stop)).Shallow depth := by
  intro u v hu hv
  unfold atDepth at hu
  split at hu
  · rename_i hdepth
    cases hu with
    | refl =>
      cases denotes_of_value hv with
      | object hvalues =>
        refine ⟨hdepth, membersReadable_iff.2 fun e he => ?_⟩
        obtain ⟨m, hm, -, hvalue⟩ := exists_mem_of_forall₂ (memberValues_eq_ok_iff.1 hvalues)
          (KeyMap.mem_of_mem_ofList he)
        exact h m hm m.2 e.2 (.refl m.2) hvalue
    | member hmember hwithin => exact (h _ hmember u v hwithin hv).mono (Nat.le_succ depth)
  · cases hu
    cases hv

/-! ## Reading -/

/-- **What is read within some steps** can be read at the depth where it stands. -/
structure ReadsShallow (fuel : Nat) : Prop where
  value : ∀ depth text, (readValue fuel depth text).1.Shallow depth
  items : ∀ depth opening text, ∀ w ∈ (readItems fuel depth opening text).1, w.Shallow depth
  item : ∀ depth text, ∀ w ∈ (readItem fuel depth text).1, w.Shallow depth
  members : ∀ depth opening text, ∀ m ∈ (readMembers fuel depth opening text).1, m.2.Shallow depth
  member : ∀ depth text, ∀ m ∈ (readMember fuel depth text).1, m.2.Shallow depth

theorem readsShallow_zero : ReadsShallow 0 where
  value depth text := by
    rw [readValue]
    exact shallow_of_isFlat trivial
  items depth opening text w hw := by
    rw [readItems] at hw
    cases hw
  item depth text w hw := by
    rw [readItem] at hw
    cases hw
  members depth opening text m hm := by
    rw [readMembers] at hm
    cases hm
  member depth text m hm := by
    rw [readMember] at hm
    cases hm

variable {fuel : Nat}

theorem shallow_readValue (ih : ReadsShallow fuel) (depth : Nat) (text : List Char) :
    (readValue (fuel + 1) depth text).1.Shallow depth := by
  rw [readValue]
  split
  · exact shallow_of_isFlat trivial
  · rename_i c rest _
    split
    · exact shallow_of_isFlat (isFlat_reading _)
    split
    · exact shallow_list (ih.items (depth + 1) true rest) _ _
    split
    · exact shallow_object (ih.members (depth + 1) true rest) _ _
    split
    · exact shallow_of_isFlat (isFlat_readNumeral _ _)
    split
    · exact shallow_of_isFlat (isFlat_readNumeral _ _)
    split
    · exact shallow_of_isFlat (isFlat_readLiteral (w := .null) trivial _ _)
    split
    · exact shallow_of_isFlat (isFlat_readLiteral (w := .bool true) trivial _ _)
    split
    · exact shallow_of_isFlat (isFlat_readLiteral (w := .bool false) trivial _ _)
    · exact shallow_of_isFlat trivial

theorem shallow_readItems (ih : ReadsShallow fuel) (depth : Nat) (opening : Bool) (text : List Char) :
    ∀ w ∈ (readItems (fuel + 1) depth opening text).1, w.Shallow depth := by
  rw [readItems]
  split
  · simp
  · rename_i c rest _
    split
    · simp
    split
    · exact ih.item depth (c :: rest)
    split
    · split
      · simp
      · rename_i d more _
        split
        · simp
        · exact ih.item depth (d :: more)
    · simp

theorem shallow_readItem (ih : ReadsShallow fuel) (depth : Nat) (text : List Char) :
    ∀ w ∈ (readItem (fuel + 1) depth text).1, w.Shallow depth := by
  have hvalue := ih.value depth text
  rw [readItem]
  split
  · rename_i item hread
    rw [hread] at hvalue
    exact List.forall_mem_singleton.2 hvalue
  · rename_i item rest hread
    rw [hread] at hvalue
    exact List.forall_mem_cons.2 ⟨hvalue, ih.items depth false rest⟩

theorem shallow_readMembers (ih : ReadsShallow fuel) (depth : Nat) (opening : Bool)
    (text : List Char) : ∀ m ∈ (readMembers (fuel + 1) depth opening text).1, m.2.Shallow depth := by
  rw [readMembers]
  split
  · simp
  · rename_i c rest _
    split
    · simp
    split
    · split
      · exact ih.member depth rest
      · simp
    split
    · split
      · simp
      · rename_i d more _
        split
        · exact ih.member depth more
        split <;> simp
    · simp

theorem shallow_readMember (ih : ReadsShallow fuel) (depth : Nat) (text : List Char) :
    ∀ m ∈ (readMember (fuel + 1) depth text).1, m.2.Shallow depth := by
  have hflat {key : Except Fault String} {f : Fault} :
      ∀ m ∈ [(key, Written.broken f)], m.2.Shallow depth :=
    List.forall_mem_singleton.2 (shallow_of_isFlat trivial)
  rw [readMember]
  dsimp only
  split
  · split
    · simp
    · exact hflat
  · split
    · exact hflat
    · rename_i c more _
      have hvalue := ih.value depth more
      split
      · split
        · rename_i w hread
          rw [hread] at hvalue
          exact List.forall_mem_singleton.2 hvalue
        · rename_i w last hread
          rw [hread] at hvalue
          exact List.forall_mem_cons.2 ⟨hvalue, ih.members depth false last⟩
      · exact hflat

/-- **What is read can be read at the depth where it stands**, however many steps it takes. -/
theorem readsShallow (fuel : Nat) : ReadsShallow fuel := by
  induction fuel with
  | zero => exact readsShallow_zero
  | succ fuel ih =>
    exact ⟨shallow_readValue ih, shallow_readItems ih, shallow_readItem ih, shallow_readMembers ih,
      shallow_readMember ih⟩

theorem shallow_content (text : List Char) : (Document.ofText text).content.Shallow 0 := by
  have hshallow := (readsShallow (3 * text.length + 3)).value 0 text
  unfold Document.ofText
  generalize readValue (3 * text.length + 3) 0 text = reading at hshallow ⊢
  obtain ⟨w, _ | rest⟩ := reading
  · exact hshallow
  · exact hshallow

/-- **Whatever stands in a text that is read** has a value, in key order, that can be read from a text
of its own. -/
theorem readable_of_within {text : List Char} {root : Value} (h : Value.ofText text = .ok root)
    {w : Written} (hw : Within w (Document.ofText text).content) :
    ∃ v, w.value = .ok v ∧ v.inKeyOrder = v ∧ v.Readable 0 := by
  obtain ⟨v, hv⟩ := exists_value_of_within hw (content_of_ofText h).1
  exact ⟨v, hv, inKeyOrder_of_value hv, shallow_content text w v hw hv⟩

end CloudDiagram.Json
