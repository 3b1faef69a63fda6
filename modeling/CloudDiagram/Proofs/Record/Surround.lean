import CloudDiagram.Proofs.Record.Field
import CloudDiagram.Proofs.Json.Depth

/-!
# The value of a record with one field left open

What is written keeps its members in the order of the text; its value keeps the last member of each key,
in key order. A record with one field left open has such a value again, with the field left open.

* `value_ofEntries_iff`: the value of an object, entry by entry;
* `Surround.Once`: the field is not written twice;
* **`Surround.exists_value`**: the value of a record with one field left open;
* `lacks_ofValue`: the value of a record without a field.
-/

namespace CloudDiagram

open Json

/-! ## The values of lists and objects -/

/-- The values of entries, one by one. -/
def EntriesDenote (entries : List (String × Written)) (values : List (String × Value)) : Prop :=
  List.Forall₂ (fun e v => e.1 = v.1 ∧ e.2.value = .ok v.2) entries values

theorem EntriesDenote.keys {entries : List (String × Written)} {values : List (String × Value)}
    (h : EntriesDenote entries values) : entries.map Prod.fst = values.map Prod.fst := by
  rw [← List.forall₂_eq_eq_eq, List.forall₂_map_left_iff, List.forall₂_map_right_iff]
  exact h.imp fun _ _ hentry => hentry.1

/-- A relation between the elements of two lists, split at an element of the first one. -/
theorem exists_split_of_forall₂ {α β : Type} {R : α → β → Prop} {before after : List α} {x : α}
    {ys : List β} (h : List.Forall₂ R (before ++ x :: after) ys) :
    ∃ before' y after', ys = before' ++ y :: after' ∧ List.Forall₂ R before before' ∧ R x y ∧
      List.Forall₂ R after after' := by
  induction before generalizing ys with
  | nil =>
    cases h with
    | cons hx hafter => exact ⟨[], _, _, rfl, .nil, hx, hafter⟩
  | cons first rest ih =>
    cases h with
    | cons hfirst hrest =>
      obtain ⟨before', y, after', rfl, hbefore, hx, hafter⟩ := ih hrest
      exact ⟨_ :: before', y, after', rfl, .cons hfirst hbefore, hx, hafter⟩

theorem value_ofEntries_iff {entries : List (String × Written)} {v : Value} :
    (Written.ofEntries entries).value = .ok v ↔
      ∃ values, EntriesDenote entries values ∧ v = .object (KeyMap.ofList values).entries := by
  have hmembers (values : List (String × Value)) :
      memberValues (entries.map fun e => (.ok e.1, e.2)) = .ok values ↔
        EntriesDenote entries values := by
    rw [memberValues_eq_ok_iff, List.forall₂_map_left_iff, EntriesDenote]
    simp only [Except.ok.injEq]
  constructor
  · intro h
    cases denotes_of_value h with
    | object hvalues => exact ⟨_, (hmembers _).1 hvalues, rfl⟩
  · rintro ⟨values, hvalues, rfl⟩
    rw [Written.ofEntries, Written.value, (hmembers values).2 hvalues]
    rfl

theorem value_list_iff {items : List Written} {v : Value} :
    (Written.list items none).value = .ok v ↔
      ∃ values, List.Forall₂ (fun w v => w.value = .ok v) items values ∧ v = .list values := by
  constructor
  · intro h
    cases denotes_of_value h with
    | list hvalues => exact ⟨_, itemValues_eq_ok_iff.1 hvalues, rfl⟩
  · rintro ⟨values, hvalues, rfl⟩
    rw [Written.value, itemValues_eq_ok_iff.2 hvalues]
    rfl

theorem ofValue_object (members : List (String × Value)) :
    Written.ofValue (.object members) = .ofEntries (writtenEntries members) := by
  rw [Written.ofValue, writtenMembers_eq_map, Written.ofEntries, writtenEntries, List.map_map]
  rfl

/-! ## Records -/

namespace Surround

variable {name : String} {place : Nat}

/-- The field is not written twice. -/
def Once : Surround name place → Prop
  | members before _ _ => name ∉ before.map Prod.fst
  | items _ _ => True

theorem within_fill (frame : Surround name place) (w : Written) : Within w (frame.fill w) := by
  cases frame with
  | members before after last =>
    refine .member (m := (.ok name, w)) (List.mem_map.2 ⟨(name, w), ?_, rfl⟩) (.refl w)
    exact List.mem_append_right before List.mem_cons_self
  | items before full => exact .item (List.mem_append_right before List.mem_cons_self) (.refl w)

/-- **The value of a record with one field left open** is again a record with this field left open. -/
theorem exists_value {frame : Surround name place} {w₀ : Written} {u₀ : Value}
    (h : (frame.fill w₀).value = .ok u₀) :
    ∃ inner : Surround name place,
      (∀ w v, w.value = .ok v →
        ∃ u, (frame.fill w).value = .ok u ∧ .ofValue u = inner.fill (.ofValue v)) ∧
      (frame.Once → ∃ u, frame.without.value = .ok u ∧ .ofValue u = inner.without) := by
  cases frame with
  | members before after last =>
    obtain ⟨values, hvalues, -⟩ := value_ofEntries_iff.1 h
    obtain ⟨before', ⟨key, v₀⟩, after', -, hbefore, ⟨hkey, -⟩, hafter⟩ :=
      exists_split_of_forall₂ hvalues
    have hlast : name ∉ after'.map Prod.fst := by
      rwa [← EntriesDenote.keys hafter]
    obtain ⟨left, right, hright, hinsert, hwithout⟩ :=
      (KeyMap.ofList (before' ++ after')).exists_split_insert name
    rw [← keys_writtenEntries] at hright
    refine ⟨.members (writtenEntries left) (writtenEntries right) hright, fun w v hw => ?_,
      fun honce => ?_⟩
    · refine ⟨_, value_ofEntries_iff.2 ⟨before' ++ (name, v) :: after',
        List.rel_append hbefore (.cons ⟨rfl, hw⟩ hafter), rfl⟩, ?_⟩
      rw [KeyMap.ofList_middle hlast, hinsert, ofValue_object, writtenEntries, List.map_append,
        List.map_cons]
      rfl
    · refine ⟨_, value_ofEntries_iff.2 ⟨before' ++ after', List.rel_append hbefore hafter, rfl⟩, ?_⟩
      have hnew : name ∉ (KeyMap.ofList (before' ++ after')).entries.map Prod.fst := by
        intro hmem
        have hmem := KeyMap.mem_keys_of_mem_keys_ofList hmem
        rw [List.map_append, ← EntriesDenote.keys hbefore, List.mem_append] at hmem
        exact hmem.elim honce hlast
      rw [hwithout hnew, ofValue_object, writtenEntries, List.map_append]
      rfl
  | items before full =>
    obtain ⟨values, hvalues, -⟩ := value_list_iff.1 h
    obtain ⟨before', v₀, after', -, hbefore, -, -⟩ := exists_split_of_forall₂ hvalues
    have hfull : (writtenItems before').length = place := by
      rw [writtenItems_eq_map, List.length_map, ← hbefore.length_eq, full]
    refine ⟨.items (writtenItems before') hfull, fun w v hw => ?_, fun _ => ?_⟩
    · refine ⟨_, value_list_iff.2 ⟨before' ++ [v], List.rel_append hbefore (.cons hw .nil), rfl⟩, ?_⟩
      rw [Written.ofValue, writtenItems_eq_map, List.map_append, ← writtenItems_eq_map]
      rfl
    · exact ⟨_, value_list_iff.2 ⟨before', hbefore, rfl⟩, rfl⟩

end Surround

theorem lacks_ofValue {name : String} {place : Nat} {w : Written} (hlacks : Lacks name place w)
    {v : Value} (h : w.value = .ok v) : Lacks name place (.ofValue v) := by
  cases hlacks with
  | object hname =>
    obtain ⟨values, hvalues, rfl⟩ := value_ofEntries_iff.1 h
    rw [ofValue_object]
    refine .object fun hmem => hname ?_
    rw [keys_writtenEntries] at hmem
    rw [hvalues.keys]
    exact KeyMap.mem_keys_of_mem_keys_ofList hmem
  | list hshort =>
    obtain ⟨values, hvalues, rfl⟩ := value_list_iff.1 h
    refine .list ?_
    rw [writtenItems_eq_map, List.length_map, ← hvalues.length_eq]
    exact hshort

end CloudDiagram
