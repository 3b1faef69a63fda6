import Mathlib.Data.List.Induction
import Mathlib.Data.List.Nodup
import CloudDiagram.KeyMap

/-!
# Maps made of entries

* `mem_of_mem_ofList`: a map holds only entries that it is made of;
* **`ofList_perm`**: of entries with distinct keys, a map holds exactly these;
* **`ofList_entries`**: a map is made of its own entries;
* `find?_key_eq_some_iff`: an entry among entries with distinct keys;
* **`get?_insert`**, `eq_of_get?`, `insert_comm`: a map by its lookups;
* `exists_split_insert`, `ofList_middle`: where an entry stands in a map;
* `lastValue?`, `get?_ofList`: repeated keys.
-/

namespace CloudDiagram

variable {α : Type}

theorem insertEntry_perm {key : String} {value : α} {entries : List (String × α)}
    (h : key ∉ entries.map Prod.fst) :
    (insertEntry key value entries).Perm ((key, value) :: entries) := by
  induction entries with
  | nil => exact .refl _
  | cons first rest ih =>
    obtain ⟨k, v⟩ := first
    simp only [List.map_cons, List.mem_cons, not_or] at h
    simp only [insertEntry]
    split
    · exact .refl _
    · rw [if_neg h.1]
      exact (ih h.2 |>.cons _).trans (.swap _ _ _)

namespace KeyMap

theorem ext {m n : KeyMap α} (h : m.entries = n.entries) : m = n := by
  cases m
  cases n
  cases h
  rfl

theorem mem_of_mem_foldl_insert {entries : List (String × α)} {m : KeyMap α} {e : String × α}
    (h : e ∈ (entries.foldl (fun m e => m.insert e.1 e.2) m).entries) :
    e ∈ m.entries ∨ e ∈ entries := by
  induction entries generalizing m with
  | nil => exact .inl h
  | cons first rest ih =>
    rcases ih h with hinsert | hrest
    · rcases key_mem_insertEntry hinsert with rfl | hm
      · exact .inr List.mem_cons_self
      · exact .inl hm
    · exact .inr (List.mem_cons_of_mem _ hrest)

theorem mem_of_mem_ofList {entries : List (String × α)} {e : String × α}
    (h : e ∈ (ofList entries).entries) : e ∈ entries := by
  rcases mem_of_mem_foldl_insert h with hempty | hmem
  · cases hempty
  · exact hmem

theorem foldl_insert_perm {entries : List (String × α)} {m : KeyMap α}
    (h : ((m.entries ++ entries).map Prod.fst).Nodup) :
    (entries.foldl (fun m e => m.insert e.1 e.2) m).entries.Perm (m.entries ++ entries) := by
  induction entries generalizing m with
  | nil => simp
  | cons e rest ih =>
    have hperm : (m.insert e.1 e.2).entries.Perm (e :: m.entries) := by
      apply insertEntry_perm
      intro hmem
      rw [List.map_append, List.nodup_append] at h
      exact h.2.2 _ hmem _ List.mem_cons_self rfl
    have hall : (m.entries ++ e :: rest).Perm ((m.insert e.1 e.2).entries ++ rest) :=
      List.perm_middle.trans (hperm.symm.append_right rest)
    exact (ih ((hall.map Prod.fst).nodup_iff.1 h)).trans hall.symm

/-- **A map made of entries with distinct keys** holds exactly these entries. -/
theorem ofList_perm {entries : List (String × α)} (h : (entries.map Prod.fst).Nodup) :
    (ofList entries).entries.Perm entries :=
  @foldl_insert_perm α entries empty h

theorem nodup_keys (m : KeyMap α) : (m.entries.map Prod.fst).Nodup := by
  refine List.pairwise_map.2 (List.Pairwise.imp (fun {a b} hlt heq => ?_) m.ascending)
  rw [heq] at hlt
  exact String.lt_irrefl _ hlt

theorem eq_of_perm {m n : KeyMap α} (h : m.entries.Perm n.entries) : m = n := by
  refine ext (List.Perm.eq_of_pairwise (fun a b _ _ hab hba => ?_) m.ascending n.ascending h)
  exact absurd (String.lt_trans hab hba) (String.lt_irrefl _)

theorem ofList_entries (m : KeyMap α) : ofList m.entries = m := eq_of_perm (ofList_perm m.nodup_keys)

theorem ofList_eq_of_perm {entries entries' : List (String × α)} (hperm : entries.Perm entries')
    (hkeys : (entries.map Prod.fst).Nodup) : ofList entries = ofList entries' := by
  have hkeys' := (hperm.map Prod.fst).nodup_iff.1 hkeys
  exact eq_of_perm ((ofList_perm hkeys).trans (hperm.trans (ofList_perm hkeys').symm))

end KeyMap

/-! ## Lookups -/

theorem eq_of_mem_of_nodup {members : List (String × α)} {key : String} {u v : α}
    (hkeys : (members.map Prod.fst).Nodup) (hu : (key, u) ∈ members) (hv : (key, v) ∈ members) :
    u = v := by
  have hpair := List.inj_on_of_nodup_map hkeys hu hv rfl
  exact congrArg Prod.snd hpair

theorem find?_key_eq_some_iff {members : List (String × α)} {key k : String} {v : α}
    (hkeys : (members.map Prod.fst).Nodup) :
    members.find? (·.1 == key) = some (k, v) ↔ k = key ∧ (key, v) ∈ members := by
  constructor
  · intro h
    have hk : k = key := by simpa using List.find?_some h
    subst hk
    exact ⟨rfl, List.mem_of_find?_eq_some h⟩
  · rintro ⟨rfl, hmem⟩
    cases hfind : members.find? (·.1 == k) with
    | none => simpa using List.find?_eq_none.1 hfind _ hmem
    | some e =>
      obtain ⟨k', v'⟩ := e
      have hk : k' = k := by simpa using List.find?_some hfind
      subst hk
      rw [eq_of_mem_of_nodup hkeys (List.mem_of_find?_eq_some hfind) hmem]

theorem find?_insertEntry (key k : String) (value : α) (entries : List (String × α)) :
    (insertEntry key value entries).find? (·.1 == k) =
      if k = key then some (key, value) else entries.find? (·.1 == k) := by
  induction entries with
  | nil =>
    by_cases hk : k = key
    · subst hk
      simp [insertEntry]
    · simp [insertEntry, hk, Ne.symm hk]
  | cons first rest ih =>
    obtain ⟨k', v⟩ := first
    simp only [insertEntry]
    by_cases hk : k = key
    · subst hk
      rw [if_pos rfl] at ih ⊢
      split
      · simp
      · split
        · simp
        · rename_i hne
          simp [Ne.symm hne, ih]
    · rw [if_neg hk] at ih ⊢
      split
      · simp [Ne.symm hk]
      · split
        · rename_i heq
          subst heq
          simp [Ne.symm hk]
        · rw [List.find?_cons, List.find?_cons, ih]

namespace KeyMap

@[simp] theorem get?_empty (k : String) : (empty : KeyMap α).get? k = none := rfl

/-- **The value of a key** after an entry has been put in. -/
theorem get?_insert (m : KeyMap α) (key k : String) (value : α) :
    (m.insert key value).get? k = if k = key then some value else m.get? k := by
  rw [get?, insert, find?_insertEntry]
  split
  · rfl
  · rfl

theorem get?_eq_some_iff {m : KeyMap α} {key : String} {value : α} :
    m.get? key = some value ↔ (key, value) ∈ m.entries := by
  rw [get?, Option.map_eq_some_iff]
  constructor
  · rintro ⟨⟨k, v⟩, hfind, rfl⟩
    exact ((find?_key_eq_some_iff m.nodup_keys).1 hfind).2
  · intro hmem
    exact ⟨(key, value), (find?_key_eq_some_iff m.nodup_keys).2 ⟨rfl, hmem⟩, rfl⟩

/-- **A map is determined by its lookups.** -/
theorem eq_of_get? {m n : KeyMap α} (h : ∀ key, m.get? key = n.get? key) : m = n := by
  refine eq_of_perm ((List.perm_ext_iff_of_nodup (List.Nodup.of_map _ m.nodup_keys)
    (List.Nodup.of_map _ n.nodup_keys)).2 fun e => ?_)
  rw [← get?_eq_some_iff, ← get?_eq_some_iff, h]

theorem insert_comm (m : KeyMap α) {k₁ k₂ : String} (hne : k₁ ≠ k₂) (v₁ v₂ : α) :
    (m.insert k₁ v₁).insert k₂ v₂ = (m.insert k₂ v₂).insert k₁ v₁ := by
  refine eq_of_get? fun key => ?_
  simp only [get?_insert]
  by_cases h₁ : key = k₁
  · subst h₁
    rw [if_neg hne, if_pos rfl, if_pos rfl]
  · rw [if_neg h₁, if_neg h₁]

theorem mem_keys_iff {m : KeyMap α} {key : String} :
    key ∈ m.entries.map Prod.fst ↔ ∃ value, m.get? key = some value := by
  simp only [get?_eq_some_iff, List.mem_map, Prod.exists, exists_and_right, exists_eq_right]

end KeyMap

/-! ## Where an entry stands -/

theorem exists_split_insertEntry (key : String) (entries : List (String × α)) :
    ∃ before after, (∀ value, insertEntry key value entries = before ++ (key, value) :: after) ∧
      (key ∉ entries.map Prod.fst → entries = before ++ after) := by
  induction entries with
  | nil => exact ⟨[], [], fun _ => rfl, fun _ => rfl⟩
  | cons first rest ih =>
    obtain ⟨k, v⟩ := first
    by_cases hlt : key < k
    · exact ⟨[], (k, v) :: rest, fun value => by simp [insertEntry, hlt], fun _ => rfl⟩
    by_cases hkey : key = k
    · subst hkey
      exact ⟨[], rest, fun value => by simp [insertEntry], fun hnew => by simp at hnew⟩
    · obtain ⟨before, after, hinsert, hwithout⟩ := ih
      refine ⟨(k, v) :: before, after, fun value => ?_, fun hnew => ?_⟩
      · simp [insertEntry, hlt, hkey, hinsert]
      · rw [List.map_cons, List.mem_cons, not_or] at hnew
        rw [List.cons_append, ← hwithout hnew.2]

namespace KeyMap

/-- **An entry that is put in a map** stands at one place, whatever its value. -/
theorem exists_split_insert (m : KeyMap α) (key : String) :
    ∃ before after, key ∉ after.map Prod.fst ∧
      (∀ value, (m.insert key value).entries = before ++ (key, value) :: after) ∧
      (key ∉ m.entries.map Prod.fst → m.entries = before ++ after) := by
  obtain ⟨before, after, hinsert, hwithout⟩ := exists_split_insertEntry key m.entries
  refine ⟨before, after, fun hmem => ?_, hinsert, hwithout⟩
  obtain ⟨e, he, hkey⟩ := List.mem_map.1 hmem
  have hentries : (m.insert key e.2).entries = before ++ (key, e.2) :: after := hinsert e.2
  have hnodup := (m.insert key e.2).nodup_keys
  rw [hentries, List.map_append, List.map_cons] at hnodup
  exact (List.nodup_cons.1 (List.nodup_append.1 hnodup).2.1).1 hmem

theorem foldl_insert_insert {key : String} {value : α} {entries : List (String × α)}
    (h : key ∉ entries.map Prod.fst) (m : KeyMap α) :
    entries.foldl (fun m e => m.insert e.1 e.2) (m.insert key value) =
      (entries.foldl (fun m e => m.insert e.1 e.2) m).insert key value := by
  induction entries generalizing m with
  | nil => rfl
  | cons e rest ih =>
    rw [List.map_cons, List.mem_cons, not_or] at h
    rw [List.foldl_cons, List.foldl_cons, m.insert_comm h.1, ih h.2]

/-- **The last entry of a key** can be put in at the end. -/
theorem ofList_middle {key : String} {value : α} {before after : List (String × α)}
    (h : key ∉ after.map Prod.fst) :
    ofList (before ++ (key, value) :: after) = (ofList (before ++ after)).insert key value := by
  rw [ofList, ofList, List.foldl_append, List.foldl_append, List.foldl_cons, foldl_insert_insert h]

theorem mem_keys_of_mem_keys_ofList {entries : List (String × α)} {key : String}
    (h : key ∈ (ofList entries).entries.map Prod.fst) : key ∈ entries.map Prod.fst := by
  obtain ⟨e, he, hkey⟩ := List.mem_map.1 h
  exact List.mem_map.2 ⟨e, mem_of_mem_ofList he, hkey⟩

end KeyMap

/-! ## Repeated keys -/

/-- The last value of a key among entries. -/
def lastValue? (entries : List (String × α)) (key : String) : Option α :=
  (entries.reverse.find? (·.1 == key)).map (·.2)

theorem lastValue?_concat (entries : List (String × α)) (e : String × α) (key : String) :
    lastValue? (entries ++ [e]) key = if key = e.1 then some e.2 else lastValue? entries key := by
  rw [lastValue?, List.reverse_append, List.reverse_singleton, List.singleton_append, lastValue?]
  by_cases h : key = e.1
  · subst h
    simp
  · simp [h, Ne.symm h]

/-- **A map of entries** holds the last value of each key. -/
theorem KeyMap.get?_ofList (entries : List (String × α)) (key : String) :
    (ofList entries).get? key = lastValue? entries key := by
  induction entries using List.reverseRecOn with
  | nil => rfl
  | append_singleton entries e ih =>
    rw [ofList, List.foldl_append, ← ofList, List.foldl_cons, List.foldl_nil, get?_insert, ih,
      lastValue?_concat]

theorem mem_of_lastValue? {entries : List (String × α)} {key : String} {value : α}
    (h : lastValue? entries key = some value) : (key, value) ∈ entries := by
  rw [← KeyMap.get?_ofList, KeyMap.get?_eq_some_iff] at h
  exact KeyMap.mem_of_mem_ofList h

end CloudDiagram
