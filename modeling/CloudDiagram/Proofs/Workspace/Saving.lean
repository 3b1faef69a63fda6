import CloudDiagram.Proofs.Files.Extension
import CloudDiagram.Proofs.Files.Growth
import CloudDiagram.Proofs.Workspace.Stored

/-!
# A save is all or nothing

* `FileStore.SaveLeaves`: the outcomes of a save and the trees that are left, wherever it is stopped;
* `FileStore.saveLeaves_saveText`: what a save leaves is one of them;
* `FileStore.AllOrNothing`: what was at the path is still there, or the text is;
* `FileStore.SaveLeaves.allOrNothing`: all that a save can leave is all or nothing;
* **`FileStore.save_all_or_nothing`**: so is a save, and a clearing, with the file beside the path.
-/

namespace CloudDiagram

namespace FileStore

open FileTree

variable {s : FileStore} {text : String} {outcome : Except StoreError Unit} {files made : FileTree}

/-- The directory that is made for the file. -/
def directory (s : FileStore) : FilePath := s.path.parent?.getD (.ofNames [])

theorem names_directory_isPrefix : s.directory.names <+: s.path.names.dropLast := by
  unfold directory FilePath.parent?
  split
  · exact List.nil_prefix
  · split
    · exact List.nil_prefix
    · exact List.prefix_refl _

/-! ## The file beside the path -/

theorem temporary_eq_path_iff : s.temporary = s.path ↔ s.path.fileName? = none :=
  FilePath.withExtension_eq_self_iff (by decide)

theorem slot_temporary_ne {t : FileTree} {place : List String} (h : t.slot s.temporary = .ok place) :
    t.slot s.path ≠ .ok place :=
  slot_withExtension_ne (by decide) h

theorem names_of_hasSlot_temporary {t : FileTree} {above : List String} {other : String}
    (h : t.HasSlot s.temporary above other) :
    ∃ last, s.path.fileName? = some last ∧ other ≠ last ∧
      s.path.names = s.path.names.dropLast ++ [last] ∧
      s.temporary.names.dropLast = s.path.names.dropLast := by
  cases hname : s.path.fileName? with
  | none =>
    -- the file beside a path without a name of a file is the path, and there is no place for it
    have hself := h.fileName?_eq
    rw [temporary_eq_path_iff.2 hname, hname] at hself
    cases hself
  | some last =>
    obtain ⟨name, hne, hnames⟩ : ∃ name, name ≠ last ∧
        s.temporary.names = s.path.names.dropLast ++ [name] :=
      FilePath.names_withExtension (by decide) hname
    have hlast := h.names_eq
    rw [hnames, List.dropLast_concat, List.append_cancel_left_eq] at hlast
    rw [List.singleton_inj.1 hlast] at hne
    refine ⟨last, rfl, hne, ?_, by rw [hnames, List.dropLast_concat]⟩
    exact (List.dropLast_append_getLast? last (FilePath.fileName?_eq_some_iff.1 hname).1).symm

/-! ## What a save can leave -/

/-- **The outcomes of a save and the trees that are left**: stopped while directories are made, stopped
with anything in the file beside the path, or done. The file system refuses for any reason. -/
inductive SaveLeaves (s : FileStore) (text : String) : Except StoreError Unit → FileTree → Prop
  | onTheWay (e : StoreError) (above : String) (higher : List String)
      (hhigher : higher <:+ s.directory.names.reverse) :
      SaveLeaves s text (.error e) (s.files.makeUpTo above higher).2
  | beside (e : StoreError) (made written : FileTree) (content : ByteArray)
      (hmade : s.files.createDirectories s.directory = (.ok (), made))
      (hwrite : made.write s.temporary content = .ok written) :
      SaveLeaves s text (.error e) written
  | done (moved : FileTree) (hsave : s.saveText text = (.ok (), moved)) :
      SaveLeaves s text (.ok ()) moved

/-- **What a save leaves** is one of them. -/
theorem saveLeaves_saveText (s : FileStore) (text : String) (refuse : FileError → StoreError) :
    SaveLeaves s text ((s.saveText text).1.mapError refuse) (s.saveText text).2 := by
  cases hcreated : s.files.createDirectories s.directory with
  | mk created made =>
    have hmade := makeUpTo_of_createDirectories hcreated
    unfold directory at hcreated
    cases created with
    | error e =>
      have hsave : s.saveText text = (.error e, made) := by rw [saveText, hcreated]
      rw [hsave, ← hmade]
      exact .onTheWay (refuse e) _ _ (List.suffix_refl _)
    | ok _ =>
      cases hwrite : made.writeText s.temporary text with
      | error e =>
        have hsave : s.saveText text = (.error e, made) := by simp only [saveText, hcreated, hwrite]
        rw [hsave, ← hmade]
        exact .onTheWay (refuse e) _ _ (List.suffix_refl _)
      | ok written =>
        cases hmove : written.rename s.temporary s.path with
        | error e =>
          have hsave : s.saveText text = (.error e, written) := by
            simp only [saveText, hcreated, hwrite, hmove]
          rw [hsave]
          exact .beside (refuse e) made written text.toUTF8 hcreated hwrite
        | ok moved =>
          have hsave : s.saveText text = (.ok (), moved) := by
            simp only [saveText, hcreated, hwrite, hmove]
          rw [hsave]
          exact .done moved hsave

/-- **All or nothing**: after a refusal, what the path led to before it leads to still, and it leads to
nothing new but to what stood there or to a directory that was made; otherwise it leads to the text.
No file is changed beside the two of the save. -/
structure AllOrNothing (s : FileStore) (text : String) (outcome : Except StoreError Unit)
    (files : FileTree) : Prop where
  intact : ∀ e entry, outcome = .error e → s.files.at? s.path = some entry →
    files.at? s.path = some entry
  absent : ∀ e, outcome = .error e → s.files.at? s.path = none →
    ¬ s.files.RisesFromNothing s.path.names → files.at? s.path = none
  found : ∀ e place entry, outcome = .error e → files.find s.path = .ok (place, entry) →
    s.files.get? place = some entry ∨ s.files.get? place = none ∧ entry = .directory
  saved : outcome = .ok () →
    s.path.fileName? ≠ none ∧ files.at? s.path = some (.file text.toUTF8)
  loaded : outcome = .ok () → (DiagramStore.load { s with files }).result =
    ((importDiagram text).result.map some).mapError fun e => .corrupt e.message
  others : ∀ place content, s.files.get? place = some (.file content) →
    files.slot s.temporary ≠ .ok place → (outcome = .ok () → files.slot s.path ≠ .ok place) →
    files.get? place = some (.file content)
  rooted : files.Rooted

/-- A refusal after which the path leads to what it led to when directories had been made. -/
theorem allOrNothing_of_refused (hrooted : s.files.Rooted) {above : String} {higher : List String}
    (hhigher : higher <:+ s.directory.names.reverse) (hmade : (s.files.makeUpTo above higher).2 = made)
    (hfind : files.find s.path = made.find s.path)
    (hothers : ∀ place content, made.get? place = some (.file content) →
      files.slot s.temporary ≠ .ok place → files.get? place = some (.file content))
    (hfiles : files.Rooted) (e : StoreError) : AllOrNothing s text (.error e) files := by
  have hgrown : s.files.Grown made := hmade ▸ .makeUpTo
  have hway : higher.reverse <+: s.path.names.dropLast := by
    refine List.IsPrefix.trans ?_ names_directory_isPrefix
    rw [← List.reverse_suffix, List.reverse_reverse]
    exact hhigher
  refine ⟨?intact, ?absent, ?found, ?saved, ?loaded, ?others, hfiles⟩
  case intact =>
    rintro - entry - hbefore
    obtain ⟨place, hplace⟩ := at?_eq_some_iff.1 hbefore
    exact at?_eq_some_iff.2 ⟨place, hfind.trans (hgrown.find_eq hplace)⟩
  case absent =>
    rintro - - hbefore hrises
    refine Option.eq_none_iff_forall_ne_some.2 fun entry hafter => ?_
    obtain ⟨place, hplace⟩ := at?_eq_some_iff.1 hafter
    rw [hfind, ← hmade] at hplace
    rw [at?_eq_some_iff.2 ⟨place, find_of_makeUpTo hrooted hrises hway hplace⟩] at hbefore
    cases hbefore
  case found =>
    rintro - place entry - hplace
    rw [hfind] at hplace
    obtain ⟨-, -, hentry⟩ := find_eq_ok hplace
    obtain hsame | ⟨hnone, hdirectory⟩ := hgrown place
    · exact .inl (hsame ▸ hentry)
    · rw [hdirectory] at hentry
      exact .inr ⟨hnone, (Option.some.inj hentry).symm⟩
  case saved =>
    intro h
    cases h
  case loaded =>
    intro h
    cases h
  case others =>
    rintro place content hbefore hbeside -
    exact hothers place content (hgrown.get?_eq hbefore) hbeside

theorem allOrNothing_of_beside (hrooted : s.files.Rooted) {written : FileTree} {content : ByteArray}
    (hmade : s.files.createDirectories s.directory = (.ok (), made))
    (hwrite : made.write s.temporary content = .ok written) (e : StoreError) :
    AllOrNothing s text (.error e) written := by
  have hway := makeUpTo_of_createDirectories hmade
  have hmadeRooted : made.Rooted := hway ▸ hrooted.makeUpTo
  obtain ⟨above, other, hbeside, hending, hfile, -, rfl⟩ := write_eq_ok hwrite
  obtain ⟨last, hlast, hne, hnames, habove⟩ := names_of_hasSlot_temporary hbeside
  refine allOrNothing_of_refused hrooted (List.suffix_refl _) hway ?_ ?_ ?_ e
  · refine find_put_beside hnames (FilePath.fileName?_eq_some_iff.1 hlast).2.1 hne ?_
      hbeside.directory_eq hbeside.not_isUpward hfile
    rw [← habove]
    exact hbeside.follow_eq
  · intro place old hplace hslot
    rw [get?_put hbeside.not_isUpward, if_neg]
    · exact hplace
    · rintro rfl
      exact hslot (hbeside.slot_eq hending (keepsDirectories_put hbeside.not_isUpward hfile))
  · exact hmadeRooted.put hbeside.not_isUpward hbeside.directory_eq (.inr hfile)

theorem result_load_of_find {place : List String}
    (h : files.find s.path = .ok (place, .file text.toUTF8)) :
    (DiagramStore.load { s with files }).result =
      ((importDiagram text).result.map some).mapError fun e => .corrupt e.message := by
  rw [load_eq (stored_of_find (s := { s with files }) h), loadSlot, loadText, Noted.result_bind]
  cases (importDiagram text).result <;> rfl

theorem allOrNothing_of_done (hrooted : s.files.Rooted) {moved : FileTree}
    (hsave : s.saveText text = (.ok (), moved)) : AllOrNothing s text (.ok ()) moved := by
  obtain ⟨made, written, hmade, hwrite, hmove⟩ := saveText_eq_ok hsave
  have hway := makeUpTo_of_createDirectories hmade
  have hgrown : s.files.Grown made := hway ▸ .makeUpTo
  obtain ⟨beside, place, hbeside, hplace, hfind, hothers, hmovedRooted⟩ :=
    write_rename_eq_ok hwrite hmove
  refine ⟨?intact, ?absent, ?found, ?saved, ?loaded, ?others, ?rooted⟩
  case intact =>
    intro e entry h
    cases h
  case absent =>
    intro e h
    cases h
  case found =>
    intro e place entry h
    cases h
  case saved =>
    rintro -
    obtain ⟨above, last, -, hpath⟩ := hasSlot_of_slot hplace
    refine ⟨?_, at?_eq_some_iff.2 ⟨place, hfind⟩⟩
    rw [hpath.fileName?_eq]
    exact Option.some_ne_none last
  case loaded =>
    rintro -
    exact result_load_of_find hfind
  case others =>
    intro other content hbefore hnotBeside hnotHere
    rw [hothers other (by rintro rfl; exact hnotBeside hbeside)
      (by rintro rfl; exact hnotHere rfl hplace)]
    exact hgrown.get?_eq hbefore
  case rooted => exact hmovedRooted (hway ▸ hrooted.makeUpTo)

/-- **All that a save can leave** is all or nothing. -/
theorem SaveLeaves.allOrNothing (h : SaveLeaves s text outcome files) (hrooted : s.files.Rooted) :
    AllOrNothing s text outcome files := by
  cases h with
  | onTheWay e above higher hhigher =>
    exact allOrNothing_of_refused hrooted hhigher rfl rfl (fun _ _ hplace _ => hplace)
      hrooted.makeUpTo e
  | beside e made written content hmade hwrite =>
    exact allOrNothing_of_beside hrooted hmade hwrite e
  | done moved hsave => exact allOrNothing_of_done hrooted hsave

/-! ## Clearing -/

theorem clear_eq_error {e : StoreError} (h : (DiagramStore.clear s).1 = .error e) :
    (DiagramStore.clear s).2 = s := by
  simp only [DiagramStore.clear] at h ⊢
  split at h
  · cases h
  · rename_i hpresent
    rw [if_neg hpresent]
    split at h
    · rfl
    · cases h

theorem load_clear (h : (DiagramStore.clear s).1 = .ok ()) :
    (DiagramStore.load (DiagramStore.clear s).2).result = .ok none := by
  suffices hgone : stored (DiagramStore.clear s).2 = .ok none by
    rw [load_eq hgone]
    rfl
  simp only [DiagramStore.clear] at h ⊢
  split at h
  · rename_i habsent
    rw [if_pos habsent, stored, if_neg (by simpa using habsent)]
  · rename_i hpresent
    rw [if_neg hpresent]
    split at h
    · cases h
    · rename_i removed hremove
      refine if_neg ?_
      rw [isPresent, find_remove hremove]
      exact Bool.false_ne_true

/-- **A save is all or nothing**, wherever it is stopped. The file beside the path is another one,
unless the path has no name of a file. After a clearing there is nothing to load, or nothing is
changed. -/
theorem save_all_or_nothing (s : FileStore) (hrooted : s.files.Rooted) (d : Diagram) :
    (SaveLeaves s d.exportText (DiagramStore.save s d).1 (DiagramStore.save s d).2.files ∧
      (DiagramStore.save s d).2.path = s.path) ∧
    (∀ outcome files, SaveLeaves s d.exportText outcome files →
      AllOrNothing s d.exportText outcome files) ∧
    (s.temporary = s.path ↔ s.path.fileName? = none) ∧
    (∀ t : FileTree, ∀ place, t.slot s.temporary = .ok place → t.slot s.path ≠ .ok place) ∧
    ((DiagramStore.clear s).1 = .ok () →
      (DiagramStore.load (DiagramStore.clear s).2).result = .ok none) ∧
    ∀ e, (DiagramStore.clear s).1 = .error e → (DiagramStore.clear s).2 = s :=
  ⟨⟨saveLeaves_saveText s _ s.refuse, rfl⟩, fun _ _ h => h.allOrNothing hrooted,
    temporary_eq_path_iff, fun _ _ => slot_temporary_ne, load_clear, fun _ => clear_eq_error⟩

/-- A file with a directory in the place beside it. -/
def blocked : FileStore :=
  ⟨.ofText "d/x.json", ⟨[(["d"], .directory), (["d", "x.json"], .file "old".toUTF8),
    (["d", "x.json.tmp"], .directory)]⟩⟩

/-- A file in a directory that is not there yet. -/
def unmade : FileStore := ⟨.ofText "d/x.json", .empty⟩

theorem save_all_or_nothing_blocked_unmade :
    (blocked.files.Rooted ∧
      (DiagramStore.save blocked .empty).1 =
        .error (.access "d/x.json" "Is a directory (os error 21)") ∧
      (DiagramStore.save blocked .empty).2.files.at? blocked.path = some (.file "old".toUTF8)) ∧
    unmade.files.Rooted ∧ (DiagramStore.save unmade .empty).1 = .ok () ∧
      (DiagramStore.save unmade .empty).2.files.at? unmade.path =
        some (.file Diagram.empty.exportText.toUTF8) := by
  have hblocked : blocked.files.Rooted := by
    refine rooted_of_entries fun entry hentry => ?_
    simp only [blocked, List.mem_cons, List.not_mem_nil, or_false] at hentry
    rcases hentry with rfl | rfl | rfl <;> rfl
  have hunmade : unmade.files.Rooted := rooted_of_entries fun _ h => absurd h List.not_mem_nil
  have hbefore : blocked.files.at? blocked.path = some (.file "old".toUTF8) := rfl
  have hrefused : (DiagramStore.save blocked .empty).1 =
      .error (.access "d/x.json" "Is a directory (os error 21)") := rfl
  have hsaved : (DiagramStore.save unmade .empty).1 = .ok () := rfl
  obtain ⟨⟨hleft, -⟩, hall, -⟩ := save_all_or_nothing blocked hblocked .empty
  obtain ⟨⟨hdone, -⟩, hmade, -⟩ := save_all_or_nothing unmade hunmade .empty
  exact ⟨⟨hblocked, hrefused, (hall _ _ hleft).intact _ _ hrefused hbefore⟩, hunmade, hsaved,
    ((hmade _ _ hdone).saved hsaved).2⟩

/-- A path that goes up again from a name where nothing stands: a refused save makes the directory on
the way, and the path, which is its own temporary file, leads somewhere. -/
theorem save_goes_up :
    let s : FileStore := ⟨.ofText "a/..", .empty⟩
    s.files.Rooted ∧ s.files.at? s.path = none ∧ (DiagramStore.load s).result = .ok none ∧
      (DiagramStore.save s .empty).1 = .error (.access "a/.." "Is a directory (os error 21)") ∧
      (DiagramStore.save s .empty).2.files.at? s.path = some .directory ∧
      (DiagramStore.load (DiagramStore.save s .empty).2).result =
        .error (.access "a/.." "Is a directory (os error 21)") ∧
      s.temporary = s.path :=
  ⟨rooted_of_entries fun _ h => absurd h List.not_mem_nil, rfl, rfl, rfl, rfl, rfl, rfl⟩

end FileStore

end CloudDiagram
