import CloudDiagram.Proofs.Files.Tree
import Mathlib.Data.List.Induction

/-!
# Trees that grow

Directories are made on the way to a file, and what a path leads to afterwards.

* `FileTree.follow_of_kept`, `FileTree.follow_append_eq_ok`, `FileTree.follow_downward`: names that are
  followed through directories that are kept, in two parts, and downwards only;
* `FileTree.Rooted`: whatever stands in a tree stands in a directory;
* `FileTree.makeUpTo_induction`: what holds of a tree in which directories are made one after the other;
* `FileTree.Grown`: the same tree with directories more;
* `FileTree.RisesFromNothing`: names that go up again from where nothing stands;
* **`FileTree.follow_of_grown`**: where names can lead in a grown tree that led elsewhere before;
* **`FileTree.Grown.find_eq`**, **`FileTree.find_of_makeUpTo`**, **`FileTree.find_put_beside`**: what a
  path leads to when directories are made on the way, and when a file is written beside it;
* `FileTree.write_rename_eq_ok`: a file that is written and then moved.
-/

namespace CloudDiagram

namespace FileTree

variable {t next : FileTree} {start place directory : List String} {names : List String} {last : String}

/-! ## Following names -/

theorem follow_of_kept (hkeeps : t.KeepsDirectories next) (h : t.follow start names = .ok place)
    (hplace : next.get? place ≠ none) : next.follow start names = .ok place := by
  induction names generalizing start with
  | nil =>
    cases h
    rfl
  | cons name rest ih =>
    obtain ⟨hlater, ⟨hfound, hrest⟩ | ⟨-, rfl, rfl⟩⟩ := follow_cons_eq_ok h
    · rw [follow, hlater, hkeeps _ hfound]
      exact ih hrest
    · rw [follow, hlater]
      cases hnext : next.get? (toward start name) with
      | none => exact absurd hnext hplace
      | some e => cases e <;> rfl

theorem follow_append_eq_ok (hstart : t.get? start = some .directory) {more : List String}
    (hmore : more ≠ []) (h : t.follow start (names ++ more) = .ok place) :
    ∃ directory, t.follow start names = .ok directory ∧ t.get? directory = some .directory ∧
      t.follow directory more = .ok place := by
  induction names generalizing start with
  | nil => exact ⟨start, rfl, hstart, h⟩
  | cons name rest ih =>
    rw [List.cons_append] at h
    obtain ⟨hlater, ⟨hfound, hrest⟩ | ⟨-, hnil, -⟩⟩ := follow_cons_eq_ok h
    · obtain ⟨directory, hnames, hdirectory, hon⟩ := ih hfound hrest
      refine ⟨directory, ?_, hdirectory, hon⟩
      rw [follow, hlater, hfound]
      exact hnames
    · exact absurd (List.append_eq_nil_iff.1 hnil).2 hmore

theorem get?_of_follow (hstart : t.get? start = some .directory)
    (h : t.follow start names = .ok place) : t.get? place ≠ none := by
  induction names generalizing start with
  | nil =>
    cases h
    rw [hstart]
    exact Option.some_ne_none _
  | cons name rest ih =>
    obtain ⟨-, ⟨hfound, hrest⟩ | ⟨⟨content, hfile⟩, -, rfl⟩⟩ := follow_cons_eq_ok h
    · exact ih hfound hrest
    · rw [hfile]
      exact Option.some_ne_none _

theorem follow_downward (hdown : ".." ∉ names) (h : t.follow start names = .ok place) :
    place = start ++ names := by
  induction names generalizing start with
  | nil =>
    cases h
    exact (List.append_nil _).symm
  | cons name rest ih =>
    rw [List.mem_cons, not_or] at hdown
    obtain ⟨hname, hrest⟩ := hdown
    have htoward : toward start name = start ++ [name] := if_neg (Ne.symm hname)
    obtain ⟨-, ⟨-, hon⟩ | ⟨-, rfl, rfl⟩⟩ := follow_cons_eq_ok h
    · rw [ih hrest hon, htoward, List.append_assoc]
      rfl
    · exact htoward

/-! ## Trees without loose ends -/

/-- **Whatever stands in a tree stands in a directory.** -/
def Rooted (t : FileTree) : Prop :=
  ∀ place name, t.get? (place ++ [name]) ≠ none → t.get? place = some .directory

theorem rooted_of_entries (h : ∀ entry ∈ t.entries, t.get? entry.1.dropLast = some .directory) :
    t.Rooted := by
  intro place name hsome
  by_cases hup : isUpward (place ++ [name]) = true
  · rw [isUpward, List.all_append, Bool.and_eq_true] at hup
    exact if_pos hup.1
  · rw [get?, if_neg hup, Option.ne_none_iff_exists'] at hsome
    obtain ⟨e, he⟩ := hsome
    obtain ⟨entry, hentry, -⟩ := Option.map_eq_some_iff.1 he
    have hdirectory := h entry (List.mem_of_find?_eq_some hentry)
    have hplace : entry.1 = place ++ [name] := by simpa using List.find?_some hentry
    rwa [hplace, List.dropLast_concat] at hdirectory

namespace Rooted

theorem get?_of_append (h : t.Rooted) {more : List String} (hmore : more ≠ [])
    (hsome : t.get? (place ++ more) ≠ none) : t.get? place = some .directory := by
  induction more using List.reverseRecOn with
  | nil => exact absurd rfl hmore
  | append_singleton more name ih =>
    rw [← List.append_assoc] at hsome
    have habove := h _ _ hsome
    cases more with
    | nil => rwa [List.append_nil] at habove
    | cons first rest => exact ih (by simp) (by rw [habove]; exact Option.some_ne_none _)

theorem get?_above (h : t.Rooted) (hplace : t.get? place = some .directory) :
    t.get? (above place) = some .directory := by
  unfold above
  split
  · exact hplace
  · split
    · rename_i hup
      have hmore : isUpward (place ++ [".."]) = true := by
        rw [isUpward, List.all_append, ← isUpward, hup]
        rfl
      rw [get?, if_pos hmore]
    · rename_i hup
      obtain hnil | ⟨higher, name, rfl⟩ := List.eq_nil_or_concat' place
      · exact absurd (by rw [hnil]; rfl) hup
      · rw [List.dropLast_concat]
        exact h higher name (by rw [hplace]; exact Option.some_ne_none _)

/-- **One more entry in a directory**, which does not take the place of a directory. -/
theorem put (h : t.Rooted) {e : FileEntry} (hup : isUpward (directory ++ [last]) = false)
    (hdirectory : t.get? directory = some .directory)
    (hplace : e = .directory ∨ t.get? (directory ++ [last]) ≠ some .directory) :
    (t.put (directory ++ [last]) e).Rooted := by
  intro place name hsome
  rw [get?_put hup] at hsome ⊢
  have habove : t.get? place = some .directory := by
    split at hsome
    · rename_i heq
      rwa [(List.append_inj' heq rfl).1]
    · exact h place name hsome
  split
  · rename_i heq
    rcases hplace with rfl | hplace
    · rfl
    · rw [heq] at habove
      exact absurd habove hplace
  · exact habove

theorem drop (h : t.Rooted) {content : ByteArray} (hfile : t.get? place = some (.file content)) :
    (t.drop place).Rooted := by
  intro other name hsome
  have hup := not_isUpward_of_file hfile
  rw [get?_drop hup] at hsome ⊢
  split at hsome
  · exact absurd rfl hsome
  · have habove := h other name hsome
    rw [if_neg]
    · exact habove
    · rintro rfl
      rw [hfile] at habove
      cases habove

end Rooted

/-! ## Directories made one after the other -/

theorem ensureDirectory_eq_ok {p : FilePath} (h : t.ensureDirectory p = .ok next) :
    next = t ∨ ∃ directory last, t.HasSlot p directory last ∧ t.get? (directory ++ [last]) = none ∧
      next = t.put (directory ++ [last]) .directory := by
  unfold ensureDirectory at h
  split at h
  · rename_i made hmade
    cases h
    unfold makeDirectory at hmade
    split at hmade
    · cases hmade
    · cases hmade
    · rename_i place hslot
      obtain ⟨found, hlook, hmade⟩ := bind_eq_ok.1 hmade
      obtain ⟨rfl, -⟩ := look_eq_ok hlook
      split at hmade
      · cases hmade
      · rename_i hnone
        cases hmade
        obtain ⟨directory, last, rfl, hpath⟩ := hasSlot_of_slot hslot
        exact .inr ⟨directory, last, hpath, hnone, rfl⟩
  · split at h
    · cases h
      exact .inl rfl
    · cases h

/-- **Directories are made one after the other**, each in a directory that is there and where nothing
stands, on the way of the names. -/
theorem makeUpTo_induction {P : FileTree → Prop} {text : String} {reversed : List String} (hstart : P t)
    (hput : ∀ left p directory last, P left → p.names.reverse <:+ reversed →
      left.HasSlot p directory last → left.get? (directory ++ [last]) = none →
      P (left.put (directory ++ [last]) .directory)) :
    P (t.makeUpTo text reversed).2 := by
  induction reversed generalizing text with
  | nil => exact hstart
  | cons name higher ih =>
    have hensure {left made : FileTree} (hleft : P left)
        (h : left.ensureDirectory ⟨text, (name :: higher).reverse, .name⟩ = .ok made) : P made := by
      obtain rfl | ⟨directory, last, hpath, hnone, rfl⟩ := ensureDirectory_eq_ok h
      · exact hleft
      · exact hput _ _ _ _ hleft (by simp) hpath hnone
    have hhigher : P (t.makeUpTo (FilePath.textAbove text) higher).2 :=
      ih fun left p directory last hleft hsuffix =>
        hput left p directory last hleft (hsuffix.trans (List.suffix_cons name higher))
    unfold makeUpTo
    dsimp only
    split
    · rename_i made hmade
      exact hensure hstart hmade
    · split
      · rename_i hleft
        rwa [hleft] at hhigher
      · rename_i left hleft
        rw [hleft] at hhigher
        split
        · rename_i made hmade
          exact hensure hhigher hmade
        · exact hhigher
    · exact hstart

theorem makeUpTo_of_createDirectories {p : FilePath} {outcome : Except FileError Unit}
    (h : t.createDirectories p = (outcome, next)) : (t.makeUpTo p.text p.names.reverse).2 = next := by
  rw [← createDirectories, h]

theorem Rooted.makeUpTo (h : t.Rooted) {text : String} {reversed : List String} :
    (t.makeUpTo text reversed).2.Rooted :=
  makeUpTo_induction h fun _ _ _ _ hleft _ hpath _ =>
    hleft.put hpath.not_isUpward hpath.directory_eq (.inl rfl)

/-- **The same tree with directories more**, where nothing stood. -/
def Grown (t next : FileTree) : Prop :=
  ∀ place, next.get? place = t.get? place ∨
    t.get? place = none ∧ next.get? place = some .directory

namespace Grown

theorem refl (t : FileTree) : t.Grown t := fun _ => .inl rfl

theorem put (h : t.Grown next) (hup : isUpward place = false) (hnone : next.get? place = none) :
    t.Grown (next.put place .directory) := by
  intro other
  rw [get?_put hup]
  split
  · rename_i heq
    subst heq
    obtain hsame | ⟨-, hdirectory⟩ := h other
    · exact .inr ⟨hsame ▸ hnone, rfl⟩
    · rw [hdirectory] at hnone
      cases hnone
  · exact h other

theorem get?_eq (h : t.Grown next) {e : FileEntry} (he : t.get? place = some e) :
    next.get? place = some e := by
  obtain hsame | ⟨hnone, -⟩ := h place
  · rw [hsame, he]
  · rw [hnone] at he
    cases he

theorem keepsDirectories (h : t.Grown next) : t.KeepsDirectories next :=
  fun _ hdirectory => h.get?_eq hdirectory

theorem makeUpTo {text : String} {reversed : List String} :
    t.Grown (t.makeUpTo text reversed).2 :=
  makeUpTo_induction (refl t) fun _ _ _ _ hleft _ hpath hnone =>
    hleft.put hpath.not_isUpward hnone

end Grown

/-! ## Paths in a grown tree -/

theorem get?_nil (t : FileTree) : t.get? [] = some .directory := rfl

theorem HasSlot.taken_of_follow {p : FilePath} (h : next.HasSlot p directory last)
    (hgrown : t.Grown next) (hfollow : t.follow [] p.names = .ok place) :
    next.get? (directory ++ [last]) ≠ none := by
  have hplace : next.get? place ≠ none := by
    obtain ⟨e, he⟩ := Option.ne_none_iff_exists'.1 (get?_of_follow t.get?_nil hfollow)
    rw [hgrown.get?_eq he]
    exact Option.some_ne_none e
  have hnow := follow_of_kept hgrown.keepsDirectories hfollow hplace
  rw [h.names_eq, follow_append (.refl next) h.follow_eq h.directory_eq] at hnow
  have hlast : ".." ∉ [last] := by simpa using Ne.symm h.not_up
  rwa [follow_downward hlast hnow] at hplace

/-- A place for a file below names that are followed already is straight below where they lead. -/
theorem HasSlot.place_eq_below {p : FilePath} {above known further : List String}
    (h : next.HasSlot p above last) (hgrown : t.Grown next) (hknown : t.follow [] known = .ok directory)
    (hdirectory : t.get? directory = some .directory) (hfurther : p.names = known ++ further)
    (hnil : further ≠ []) (hdown : ".." ∉ further) : above ++ [last] = directory ++ further := by
  have hfollow := h.follow_eq
  have hlast := h.names_eq
  rw [hfurther, List.dropLast_append_of_ne_nil hnil] at hfollow hlast
  rw [follow_append hgrown.keepsDirectories hknown hdirectory] at hfollow
  rw [List.append_assoc, List.append_cancel_left_eq] at hlast
  have hstay : ".." ∉ further.dropLast := fun hup => hdown (List.dropLast_subset _ hup)
  rw [follow_downward hstay hfollow, List.append_assoc, ← hlast]

/-- A place that is free on the way is not where all of the names lead. -/
theorem HasSlot.place_ne_beyond {p : FilePath} {above known more : List String}
    (h : next.HasSlot p above last) (hempty : next.get? (above ++ [last]) = none)
    (hgrown : t.Grown next) (hknown : t.follow [] known = .ok directory)
    (hdirectory : t.get? directory = some .directory) (hdown : ".." ∉ more)
    (hway : p.names <+: (known ++ more).dropLast) : directory ++ more ≠ above ++ [last] := by
  intro heq
  have hoccupied {place : List String} (hplace : t.follow [] p.names = .ok place) : False :=
    h.taken_of_follow hgrown hplace hempty
  have hpart : p.names <+: known ++ more := hway.trans (List.dropLast_prefix _)
  -- the names are among those that are followed already, or go beyond them
  obtain ⟨rest, hrest⟩ | ⟨further, hfurther⟩ :=
    List.prefix_or_prefix_of_prefix hpart (List.prefix_append known more)
  · by_cases hnil : rest = []
    · rw [hnil, List.append_nil] at hrest
      exact hoccupied (hrest ▸ hknown)
    · rw [← hrest] at hknown
      obtain ⟨place, hplace, -⟩ := follow_append_eq_ok t.get?_nil hnil hknown
      exact hoccupied hplace
  · by_cases hnil : further = []
    · rw [hnil, List.append_nil] at hfurther
      exact hoccupied (hfurther ▸ hknown)
    · rw [← hfurther, List.prefix_append_right_inj] at hpart
      have hplace := h.place_eq_below hgrown hknown hdirectory hfurther.symm hnil
        fun hup => hdown (hpart.subset hup)
      have hsame : more = further := List.append_cancel_left (heq.trans hplace)
      have hlength := hway.length_le
      rw [← hfurther, hsame, List.length_dropLast, List.length_append] at hlength
      have := List.length_pos_iff.2 hnil
      omega

/-- **Directories are made on the way only**: beyond names that are followed already, nothing is made
where all of the further names lead. -/
theorem get?_makeUpTo_beyond {known more : List String} {text : String} {reversed : List String}
    (hknown : t.follow [] known = .ok directory) (hdirectory : t.get? directory = some .directory)
    (hdown : ".." ∉ more) (hreversed : reversed.reverse <+: (known ++ more).dropLast)
    (hnone : t.get? (directory ++ more) = none) :
    (t.makeUpTo text reversed).2.get? (directory ++ more) = none := by
  suffices h : t.Grown (t.makeUpTo text reversed).2 ∧
      (t.makeUpTo text reversed).2.get? (directory ++ more) = none from h.2
  refine makeUpTo_induction (P := fun left => t.Grown left ∧ left.get? (directory ++ more) = none)
    ⟨Grown.refl t, hnone⟩ ?_
  rintro left p above last ⟨hgrown, hleft⟩ hsuffix hpath hempty
  refine ⟨hgrown.put hpath.not_isUpward hempty, ?_⟩
  have hway : p.names <+: reversed.reverse := by
    rw [← List.reverse_suffix, List.reverse_reverse]
    exact hsuffix
  rw [get?_put hpath.not_isUpward, if_neg]
  · exact hleft
  · exact hpath.place_ne_beyond hempty hgrown hknown hdirectory hdown (hway.trans hreversed)

/-- **The names go up again from where nothing stands.** -/
def RisesFromNothing (t : FileTree) (names : List String) : Prop :=
  ∃ known name rest directory, names = known ++ name :: rest ∧ t.follow [] known = .ok directory ∧
    t.get? directory = some .directory ∧ t.get? (toward directory name) = none ∧ ".." ∈ rest

theorem follow_of_grown_after (hrooted : t.Rooted) (hgrown : t.Grown next) {known more : List String}
    (hknown : t.follow [] known = .ok directory) (hdirectory : t.get? directory = some .directory)
    (hrises : ¬ t.RisesFromNothing (known ++ more)) (h : next.follow directory more = .ok place) :
    t.follow [] (known ++ more) = .ok place ∨
      ∃ known' more' directory', known ++ more = known' ++ more' ∧
        t.follow [] known' = .ok directory' ∧ t.get? directory' = some .directory ∧ ".." ∉ more' ∧
        t.get? (directory' ++ more') = none ∧ place = directory' ++ more' := by
  induction more generalizing known directory with
  | nil =>
    cases h
    rw [List.append_nil]
    exact .inl hknown
  | cons name rest ih =>
    obtain ⟨hlater, hnext⟩ := follow_cons_eq_ok h
    have hstep (e : FileEntry) (he : t.get? (toward directory name) = some e) :
        t.follow [] (known ++ [name]) = .ok (toward directory name) := by
      rw [follow_append (.refl t) hknown hdirectory, follow, hlater, he]
      cases e <;> rfl
    cases ht : t.get? (toward directory name) with
    | none =>
      have hrest : ".." ∉ rest := fun hup =>
        hrises ⟨known, name, rest, directory, rfl, hknown, hdirectory, ht, hup⟩
      have hname : name ≠ ".." := by
        rintro rfl
        rw [toward, if_pos rfl, hrooted.get?_above hdirectory] at ht
        cases ht
      have hdown : ".." ∉ name :: rest := by
        rw [List.mem_cons, not_or]
        exact ⟨Ne.symm hname, hrest⟩
      refine .inr ⟨known, name :: rest, directory, rfl, hknown, hdirectory, hdown, ?_,
        follow_downward hdown h⟩
      rw [toward, if_neg hname] at ht
      refine Classical.byContradiction fun hsome => ?_
      rw [← List.singleton_append, ← List.append_assoc] at hsome
      cases rest with
      | nil => exact hsome (by rwa [List.append_nil])
      | cons first others =>
        rw [hrooted.get?_of_append (by simp) hsome] at ht
        cases ht
    | some e =>
      have hfound := hgrown.get?_eq ht
      rw [List.append_cons] at hrises ⊢
      obtain ⟨hd, hrest⟩ | ⟨-, rfl, rfl⟩ := hnext
      · rw [hd] at hfound
        cases hfound
        exact ih (hstep _ ht) ht hrises hrest
      · rw [List.append_nil]
        exact .inl (hstep e ht)

/-- **Names that lead somewhere in a grown tree** led there before, or lead straight down from a
directory that was there to where nothing stood. -/
theorem follow_of_grown (hrooted : t.Rooted) (hgrown : t.Grown next)
    (hrises : ¬ t.RisesFromNothing names) (h : next.follow [] names = .ok place) :
    t.follow [] names = .ok place ∨
      ∃ known more directory, names = known ++ more ∧ t.follow [] known = .ok directory ∧
        t.get? directory = some .directory ∧ ".." ∉ more ∧ t.get? (directory ++ more) = none ∧
        place = directory ++ more := by
  have hstart : t.follow [] [] = .ok [] := rfl
  exact follow_of_grown_after hrooted hgrown hstart t.get?_nil hrises h

/-! ## What a path leads to -/

variable {p : FilePath}

theorem find_eq_ok_iff {e : FileEntry} : t.find p = .ok (place, e) ↔
    refusal? p = none ∧ t.follow [] p.names = .ok place ∧ t.get? place = some e ∧
      ∀ content, e = .file content → p.ending = .name := by
  constructor
  · intro h
    obtain ⟨hrefusal, hfollow, hplace⟩ := find_eq_ok h
    refine ⟨hrefusal, hfollow, hplace, ?_⟩
    rintro content rfl
    rw [find, hrefusal, hfollow] at h
    simp only [bind, Except.bind, hplace] at h
    split at h
    · assumption
    · cases h
  · rintro ⟨hrefusal, hfollow, hplace, hname⟩
    rw [find, hrefusal, hfollow]
    simp only [bind, Except.bind, hplace]
    cases e with
    | directory => rfl
    | file content => exact if_pos (hname content rfl)

/-- **What a path leads to**, if it leads to anything. -/
def at? (t : FileTree) (p : FilePath) : Option FileEntry := (t.find p).toOption.map (·.2)

theorem at?_eq_some_iff {e : FileEntry} : t.at? p = some e ↔ ∃ place, t.find p = .ok (place, e) := by
  unfold at?
  cases t.find p with
  | error _ => simp [Except.toOption]
  | ok found =>
    obtain ⟨place, entry⟩ := found
    simp [Except.toOption]

theorem Grown.find_eq (h : t.Grown next) {e : FileEntry} (hfind : t.find p = .ok (place, e)) :
    next.find p = .ok (place, e) := by
  obtain ⟨hrefusal, hfollow, hplace, hname⟩ := find_eq_ok_iff.1 hfind
  have hlater := h.get?_eq hplace
  refine find_eq_ok_iff.2 ⟨hrefusal, ?_, hlater, hname⟩
  exact follow_of_kept h.keepsDirectories hfollow (by rw [hlater]; exact Option.some_ne_none e)

/-- **Nothing else is found** when directories are made on the way, unless the path goes up again from
where nothing stood. -/
theorem find_of_makeUpTo (hrooted : t.Rooted) (hrises : ¬ t.RisesFromNothing p.names) {text : String}
    {reversed : List String} (hreversed : reversed.reverse <+: p.names.dropLast) {e : FileEntry}
    (h : (t.makeUpTo text reversed).2.find p = .ok (place, e)) : t.find p = .ok (place, e) := by
  have hgrown : t.Grown (t.makeUpTo text reversed).2 := .makeUpTo
  obtain ⟨hrefusal, hfollow, hplace, hname⟩ := find_eq_ok_iff.1 h
  obtain hbefore | ⟨known, more, directory, hnames, hknown, hdirectory, hdown, hnone, rfl⟩ :=
    follow_of_grown hrooted hgrown hrises hfollow
  · obtain ⟨entry, hentry⟩ := Option.ne_none_iff_exists'.1 (get?_of_follow t.get?_nil hbefore)
    rw [hgrown.get?_eq hentry] at hplace
    exact find_eq_ok_iff.2 ⟨hrefusal, hbefore, hentry.trans hplace, hname⟩
  · rw [hnames] at hreversed
    rw [get?_makeUpTo_beyond hknown hdirectory hdown hreversed hnone] at hplace
    cases hplace

theorem find_put_beside {other : String} {content : ByteArray}
    (hnames : p.names = p.names.dropLast ++ [last]) (hlast : last ≠ "..") (hne : other ≠ last)
    (hfollow : t.follow [] p.names.dropLast = .ok directory)
    (hdirectory : t.get? directory = some .directory)
    (hup : isUpward (directory ++ [other]) = false)
    (hplace : t.get? (directory ++ [other]) ≠ some .directory) :
    (t.put (directory ++ [other]) (.file content)).find p = t.find p := by
  have hget : (t.put (directory ++ [other]) (.file content)).get? (directory ++ [last]) =
      t.get? (directory ++ [last]) := by
    rw [get?_put hup, if_neg]
    intro heq
    exact hne (List.singleton_inj.1 (List.append_cancel_left heq)).symm
  have hlook : (t.put (directory ++ [other]) (.file content)).look (directory ++ [last]) =
      t.look (directory ++ [last]) := by
    unfold look
    rw [hget]
  have htoward : toward directory last = directory ++ [last] := if_neg hlast
  have hwritten : t.KeepsDirectories (t.put (directory ++ [other]) (.file content)) :=
    keepsDirectories_put hup hplace
  have hafter := follow_append hwritten hfollow hdirectory [last]
  have hbefore := follow_append (.refl t) hfollow hdirectory [last]
  rw [← hnames] at hafter hbefore
  rw [find, find, hafter, hbefore]
  simp only [follow, htoward, hlook]
  cases t.look (directory ++ [last]) with
  | error e => rfl
  | ok found =>
    rcases found with _ | (_ | _)
    · rfl
    · simp only [bind, Except.bind, if_true, hget]
    · simp only [bind, Except.bind, hget]

/-- **A file that is written and then moved**: its path leads to it, and what stands elsewhere is as
before. -/
theorem write_rename_eq_ok {source target : FilePath} {content : ByteArray} {written : FileTree}
    (hwrite : t.write source content = .ok written) (hmove : written.rename source target = .ok next) :
    ∃ beside place, next.slot source = .ok beside ∧ next.slot target = .ok place ∧
      next.find target = .ok (place, .file content) ∧
      (∀ other, other ≠ beside → other ≠ place → next.get? other = t.get? other) ∧
      (t.Rooted → next.Rooted) := by
  obtain ⟨above, other, hbeside, hending, hfile, hlater, hput⟩ := write_eq_ok hwrite
  have hwritten : t.KeepsDirectories written :=
    hput ▸ keepsDirectories_put hbeside.not_isUpward hfile
  have hhere : written.get? (above ++ [other]) = some (.file content) := by
    rw [hput, get?_put hbeside.not_isUpward, if_pos rfl]
  have hsource := hbeside.find_eq hending hwritten (by rw [hlater, hhere])
  obtain ⟨directory, last, hpath, hname, htarget, hlook, hnext⟩ := rename_eq_ok hsource hmove
  have hdropped := keepsDirectories_drop hhere
  have hmoved : written.KeepsDirectories next := hnext ▸ hdropped.put hpath.not_isUpward htarget
  refine ⟨above ++ [other], directory ++ [last], ?_, hpath.slot_eq hname hmoved, ?_, ?_, ?_⟩
  · exact hbeside.slot_eq hending fun _ hd => hmoved _ (hwritten _ hd)
  · refine hpath.find_eq hname hmoved ?_
    rw [hlook, hnext, get?_put hpath.not_isUpward, if_pos rfl]
  · intro elsewhere hnotBeside hnotHere
    rw [hnext, get?_put hpath.not_isUpward, if_neg hnotHere, get?_drop hbeside.not_isUpward,
      if_neg hnotBeside, hput, get?_put hbeside.not_isUpward, if_neg hnotBeside]
  · intro hrooted
    have hplace : (written.drop (above ++ [other])).get? (directory ++ [last]) ≠
        some .directory := by
      rw [get?_drop hbeside.not_isUpward]
      split
      · intro h
        cases h
      · exact htarget
    have hrootedWritten : written.Rooted :=
      hput ▸ hrooted.put hbeside.not_isUpward hbeside.directory_eq (.inr hfile)
    exact hnext ▸ (hrootedWritten.drop hhere).put hpath.not_isUpward
      (hdropped _ hpath.directory_eq) (.inr hplace)

end FileTree

end CloudDiagram
