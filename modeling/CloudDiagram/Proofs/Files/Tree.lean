import CloudDiagram.Files.Tree
import CloudDiagram.Proofs.Except
import Mathlib.Data.List.Basic

/-!
# Paths in a tree that changes

* `FileTree.get?_put`, `FileTree.get?_drop`: what stands at a place after a change;
* `FileTree.KeepsDirectories`: a change after which every directory is still one;
* `FileTree.follow_append`: names are followed as before through directories that are kept;
* **`FileTree.find_write`**, **`FileTree.find_rename`**, **`FileTree.find_remove`**: what a path leads
  to after a file has been written, moved or removed there.
-/

namespace CloudDiagram

namespace FileTree

variable {t next : FileTree} {place : List String}

/-! ## Places -/

theorem find?_filter_of_ne {other : List String} (h : other ≠ place)
    (entries : List (List String × FileEntry)) :
    (entries.filter (·.1 != place)).find? (·.1 == other) = entries.find? (·.1 == other) := by
  rw [List.find?_filter]
  congr 1
  funext entry
  by_cases hentry : entry.1 = other
  · simp [hentry, h]
  · simp [hentry]

theorem get?_put {e : FileEntry} (h : isUpward place = false) (other : List String) :
    (t.put place e).get? other = if other = place then some e else t.get? other := by
  unfold get? put
  by_cases heq : other = place
  · subst heq
    simp [h]
  · have hne : (place == other) = false := beq_false_of_ne (Ne.symm heq)
    simp only [heq, if_false, List.find?_cons, hne, find?_filter_of_ne heq]

theorem get?_drop (h : isUpward place = false) (other : List String) :
    (t.drop place).get? other = if other = place then none else t.get? other := by
  unfold get? drop
  by_cases heq : other = place
  · subst heq
    simp [h, List.find?_eq_none]
  · simp only [heq, if_false, find?_filter_of_ne heq]

theorem not_isUpward_of_file {content : ByteArray} (h : t.get? place = some (.file content)) :
    isUpward place = false := by
  refine Bool.eq_false_iff.2 fun hup => ?_
  rw [get?, if_pos hup] at h
  cases h

/-! ## The way through directories -/

/-- **Every directory is still one** in the tree after a change. -/
def KeepsDirectories (t next : FileTree) : Prop :=
  ∀ place, t.get? place = some .directory → next.get? place = some .directory

theorem KeepsDirectories.refl (t : FileTree) : t.KeepsDirectories t := fun _ h => h

theorem KeepsDirectories.put (h : t.KeepsDirectories next) {content : ByteArray}
    (hup : isUpward place = false) (hplace : t.get? place ≠ some .directory) :
    t.KeepsDirectories (next.put place (.file content)) := by
  intro other hother
  rw [get?_put hup, if_neg]
  · exact h other hother
  · rintro rfl
    exact hplace hother

theorem keepsDirectories_put {content : ByteArray} (hup : isUpward place = false)
    (hplace : t.get? place ≠ some .directory) : t.KeepsDirectories (t.put place (.file content)) :=
  (KeepsDirectories.refl t).put hup hplace

theorem keepsDirectories_drop {content : ByteArray} (h : t.get? place = some (.file content)) :
    t.KeepsDirectories (t.drop place) := by
  intro other hother
  rw [get?_drop (not_isUpward_of_file h), if_neg]
  · exact hother
  · rintro rfl
    rw [h] at hother
    cases hother

theorem look_eq_ok {found : Option FileEntry} (h : t.look place = .ok found) :
    t.get? place = found ∧ ∀ next : FileTree, next.look place = .ok (next.get? place) := by
  unfold look at h ⊢
  split at h
  · rename_i hshort
    cases h
    exact ⟨rfl, fun next => if_pos hshort⟩
  · cases h

theorem follow_cons_eq_ok {start : List String} {name : String} {rest : List String}
    (h : t.follow start (name :: rest) = .ok place) :
    (∀ next : FileTree, next.look (toward start name) = .ok (next.get? (toward start name))) ∧
      ((t.get? (toward start name) = some .directory ∧
          t.follow (toward start name) rest = .ok place) ∨
        (∃ content, t.get? (toward start name) = some (.file content)) ∧ rest = [] ∧
          place = toward start name) := by
  rw [follow] at h
  obtain ⟨found, hlook, h⟩ := bind_eq_ok.1 h
  obtain ⟨rfl, hlater⟩ := look_eq_ok hlook
  refine ⟨hlater, ?_⟩
  split at h
  · cases h
  · rename_i hdirectory
    exact .inl ⟨hdirectory, h⟩
  · rename_i content hfile
    split at h
    · rename_i hlast
      cases h
      exact .inr ⟨⟨content, hfile⟩, hlast, rfl⟩
    · cases h

/-- **Names that lead to a directory** lead there still, and what follows them is followed from
there. -/
theorem follow_append (hkeeps : t.KeepsDirectories next) {start directory : List String}
    {names : List String} (h : t.follow start names = .ok directory)
    (hdirectory : t.get? directory = some .directory) (more : List String) :
    next.follow start (names ++ more) = next.follow directory more := by
  induction names generalizing start with
  | nil =>
    cases h
    rfl
  | cons name rest ih =>
    obtain ⟨hlater, ⟨hfound, hrest⟩ | ⟨⟨content, hfile⟩, -, rfl⟩⟩ := follow_cons_eq_ok h
    · rw [List.cons_append, follow, hlater, hkeeps _ hfound]
      exact ih hrest
    · rw [hfile] at hdirectory
      cases hdirectory

theorem follow_drop {content : ByteArray} {start names : List String}
    (hstart : t.get? start = some .directory) (h : t.follow start names = .ok place)
    (hfile : t.get? place = some (.file content)) :
    (t.drop place).follow start names = .error .notFound := by
  have hup := not_isUpward_of_file hfile
  induction names generalizing start with
  | nil =>
    cases h
    rw [hfile] at hstart
    cases hstart
  | cons name rest ih =>
    obtain ⟨hlater, ⟨hfound, hrest⟩ | ⟨-, -, rfl⟩⟩ := follow_cons_eq_ok h
    · rw [follow, hlater, keepsDirectories_drop hfile _ hfound]
      exact ih hfound hrest
    · rw [follow, hlater, get?_drop hup, if_pos rfl]
      rfl

/-! ## Places for files -/

variable {p : FilePath} {directory : List String} {last : String} {content : ByteArray}

/-- **What is known of a path with a place for a file.** -/
structure HasSlot (t : FileTree) (p : FilePath) (directory : List String) (last : String) :
    Prop where
  unrefused : refusal? p = none
  names_eq : p.names = p.names.dropLast ++ [last]
  not_up : last ≠ ".."
  not_top : last ≠ FilePath.top
  follow_eq : t.follow [] p.names.dropLast = .ok directory
  directory_eq : t.get? directory = some .directory

theorem hasSlot_of_slot (h : t.slot p = .ok place) :
    ∃ directory last, place = directory ++ [last] ∧ t.HasSlot p directory last := by
  unfold slot at h
  split at h
  · cases h
  · cases h
  · rename_i last hrefusal hlast
    split at h
    · cases h
    · rename_i hname
      rw [not_or, not_or] at hname
      obtain ⟨directory, hfollow, h⟩ := bind_eq_ok.1 h
      split at h
      · rename_i hdirectory
        cases h
        have hnames := (List.dropLast_append_getLast? last hlast).symm
        exact ⟨directory, last, rfl, hrefusal, hnames, hname.1, hname.2.1, hfollow, hdirectory⟩
      · cases h

theorem HasSlot.not_isUpward (h : t.HasSlot p directory last) :
    isUpward (directory ++ [last]) = false := by
  simp [isUpward, h.not_up, h.not_top]

/-- **A file at the place of a path** is what the path leads to, in any later tree that keeps the
directories. -/
theorem HasSlot.find_eq (h : t.HasSlot p directory last) (hname : p.ending = .name)
    (hkeeps : t.KeepsDirectories next)
    (hlook : next.look (directory ++ [last]) = .ok (some (.file content))) :
    next.find p = .ok (directory ++ [last], .file content) := by
  have htoward : toward directory last = directory ++ [last] := if_neg h.not_up
  have hfollow : next.follow [] p.names = .ok (directory ++ [last]) := by
    rw [h.names_eq, follow_append hkeeps h.follow_eq h.directory_eq, follow, htoward, hlook]
    rfl
  rw [find, h.unrefused, hfollow]
  simp only [bind, Except.bind, (look_eq_ok hlook).1, hname, if_true]

theorem find_eq_ok {e : FileEntry} (h : t.find p = .ok (place, e)) :
    refusal? p = none ∧ t.follow [] p.names = .ok place ∧ t.get? place = some e := by
  unfold find at h
  split at h
  · cases h
  · rename_i hrefusal
    obtain ⟨found, hfollow, h⟩ := bind_eq_ok.1 h
    split at h
    · cases h
    · rename_i hdirectory
      cases h
      exact ⟨hrefusal, hfollow, hdirectory⟩
    · rename_i hfile
      split at h
      · cases h
        exact ⟨hrefusal, hfollow, hfile⟩
      · cases h

theorem landing_eq_ok (h : t.landing p = .ok place) :
    t.slot p = .ok place ∧ p.ending = .name ∧ t.get? place ≠ some .directory ∧
      ∀ next : FileTree, next.look place = .ok (next.get? place) := by
  unfold landing at h
  split at h
  · cases h
  · cases h
  · rename_i found hslot
    obtain ⟨entry, hlook, h⟩ := bind_eq_ok.1 h
    obtain ⟨rfl, hlater⟩ := look_eq_ok hlook
    split at h
    · rename_i hname
      split at h
      · cases h
      · rename_i hfile
        cases h
        exact ⟨hslot, hname, fun hdirectory => hfile hdirectory, hlater⟩
    · cases h

theorem HasSlot.slot_eq (h : t.HasSlot p directory last) (hname : p.ending = .name)
    (hkeeps : t.KeepsDirectories next) : next.slot p = .ok (directory ++ [last]) := by
  have hlast : p.names.getLast? = some last := by
    rw [h.names_eq]
    exact List.getLast?_concat
  have hgoes : ¬ (last = ".." ∨ last = FilePath.top ∨ p.ending = .dot) := by
    simp [h.not_up, h.not_top, hname]
  have hfollow : next.follow [] p.names.dropLast = .ok directory := by
    rw [← List.append_nil p.names.dropLast, follow_append hkeeps h.follow_eq h.directory_eq]
    rfl
  rw [slot, h.unrefused, hlast]
  simp only [hgoes, if_false, hfollow, bind, Except.bind, hkeeps _ h.directory_eq]

/-! ## Writing, moving and removing a file -/

theorem write_eq_ok (h : t.write p content = .ok next) :
    ∃ directory last, t.HasSlot p directory last ∧ p.ending = .name ∧
      t.get? (directory ++ [last]) ≠ some .directory ∧
      (∀ tree : FileTree, tree.look (directory ++ [last]) = .ok (tree.get? (directory ++ [last]))) ∧
      next = t.put (directory ++ [last]) (.file content) := by
  unfold write at h
  obtain ⟨place, hslot, h⟩ := bind_eq_ok.1 h
  split at h
  · rename_i hname
    obtain ⟨found, hlook, h⟩ := bind_eq_ok.1 h
    obtain ⟨rfl, hlater⟩ := look_eq_ok hlook
    split at h
    · cases h
    · rename_i hfile
      cases h
      obtain ⟨directory, last, rfl, hpath⟩ := hasSlot_of_slot hslot
      exact ⟨directory, last, hpath, hname, hfile, hlater, rfl⟩
  · cases h

theorem rename_eq_ok {source target : FilePath} (hsource : t.find source = .ok (place, .file content))
    (h : t.rename source target = .ok next) :
    ∃ directory last, t.HasSlot target directory last ∧ target.ending = .name ∧
      t.get? (directory ++ [last]) ≠ some .directory ∧
      (∀ tree : FileTree, tree.look (directory ++ [last]) = .ok (tree.get? (directory ++ [last]))) ∧
      next = (t.drop place).put (directory ++ [last]) (.file content) := by
  rw [rename] at h
  obtain ⟨found, hfound, h⟩ := bind_eq_ok.1 h
  cases hsource.symm.trans hfound
  obtain ⟨landed, hlanding, h⟩ := bind_eq_ok.1 h
  cases h
  obtain ⟨hslot, hname, hfile, hlater⟩ := landing_eq_ok hlanding
  obtain ⟨directory, last, rfl, hpath⟩ := hasSlot_of_slot hslot
  exact ⟨directory, last, hpath, hname, hfile, hlater, rfl⟩

theorem find_write (h : t.write p content = .ok next) :
    ∃ place, next.find p = .ok (place, .file content) := by
  obtain ⟨directory, last, hpath, hname, hfile, hlater, rfl⟩ := write_eq_ok h
  refine ⟨_, hpath.find_eq hname (keepsDirectories_put hpath.not_isUpward hfile) ?_⟩
  rw [hlater, get?_put hpath.not_isUpward, if_pos rfl]

theorem find_rename {source target : FilePath} (hsource : t.find source = .ok (place, .file content))
    (h : t.rename source target = .ok next) :
    ∃ place, next.find target = .ok (place, .file content) := by
  obtain ⟨directory, last, hpath, hname, hfile, hlater, rfl⟩ := rename_eq_ok hsource h
  have hdropped := keepsDirectories_drop (find_eq_ok hsource).2.2
  refine ⟨_, hpath.find_eq hname (hdropped.put hpath.not_isUpward hfile) ?_⟩
  rw [hlater, get?_put hpath.not_isUpward, if_pos rfl]

theorem remove_eq_ok (h : t.remove p = .ok next) :
    ∃ place content, t.find p = .ok (place, .file content) ∧ next = t.drop place := by
  rw [remove] at h
  obtain ⟨⟨place, content | _⟩, hfound, h⟩ := bind_eq_ok.1 h
  · cases h
    exact ⟨place, content, hfound, rfl⟩
  · cases h

theorem find_remove (h : t.remove p = .ok next) : next.find p = .error .notFound := by
  obtain ⟨place, content, hfile, rfl⟩ := remove_eq_ok h
  obtain ⟨hrefusal, hfollow, hplace⟩ := find_eq_ok hfile
  have hstart : t.get? [] = some .directory := rfl
  rw [find, hrefusal, follow_drop hstart hfollow hplace]
  rfl

end FileTree

end CloudDiagram
