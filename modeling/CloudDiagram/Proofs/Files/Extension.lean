import CloudDiagram.Proofs.Files.Tree
import Mathlib.Data.List.TakeWhile

/-!
# The path with another extension

* `FilePath.fileName?`: the name of the file of a path, if the path has one;
* `FilePath.nameWithExtension_ne`: a name with an extension of two parts is another name;
* **`FilePath.names_withExtension`**, **`FilePath.withExtension_eq_self_iff`**: the path with such an
  extension leads beside the path, unless the path has no name of a file;
* **`FileTree.slot_withExtension_ne`**: the two do not have the same place in any tree.
-/

namespace CloudDiagram

namespace FilePath

variable {p : FilePath} {last extension : String}

/-- **The name of the file**, if the path ends neither upwards nor at the top. -/
def fileName? (p : FilePath) : Option String :=
  p.names.getLast?.filter fun last => last ≠ ".." ∧ last ≠ top

theorem fileName?_eq_some_iff :
    p.fileName? = some last ↔ p.names.getLast? = some last ∧ last ≠ ".." ∧ last ≠ top := by
  simp [fileName?, Option.filter_eq_some_iff]

theorem stem_cases (name : List Char) :
    stem name = name ∨ ∃ extension, '.' ∉ extension ∧ name = stem name ++ '.' :: extension := by
  have hsplit := List.takeWhile_append_dropWhile (p := (· != '.')) (l := name.reverse)
  unfold stem
  cases hdrop : name.reverse.dropWhile (· != '.') with
  | nil => exact .inl rfl
  | cons c before =>
    have hc : c = '.' := by
      have hhead := List.head?_dropWhile_not (· != '.') name.reverse
      simpa [hdrop] using hhead
    cases before with
    | nil => exact .inl rfl
    | cons b rest =>
      refine .inr ⟨(name.reverse.takeWhile (· != '.')).reverse, ?_, ?_⟩
      · rw [List.mem_reverse]
        intro hmem
        simpa using List.mem_takeWhile_imp hmem
      · rw [hdrop, hc] at hsplit
        simpa using (congrArg List.reverse hsplit).symm

theorem nameWithExtension_ne (name : String) (hdot : '.' ∈ extension.toList) :
    nameWithExtension name extension ≠ name := by
  intro heq
  have hchars : stem name.toList ++ '.' :: extension.toList = name.toList := by
    simpa [nameWithExtension] using congrArg String.toList heq
  obtain hstem | ⟨old, hplain, hname⟩ := stem_cases name.toList
  · rw [hstem] at hchars
    simpa using congrArg List.length hchars
  · have hsame : '.' :: extension.toList = '.' :: old :=
      List.append_cancel_left (hchars.trans hname)
    rw [(List.cons.inj hsame).2] at hdot
    exact hplain hdot

/-- **The path with an extension of two parts** leads beside the path. -/
theorem names_withExtension (hdot : '.' ∈ extension.toList) (h : p.fileName? = some last) :
    ∃ other, other ≠ last ∧ (p.withExtension extension).names = p.names.dropLast ++ [other] := by
  obtain ⟨hlast, hup, htop⟩ := fileName?_eq_some_iff.1 h
  have hname : ¬ (last = ".." ∨ last = top) := not_or.2 ⟨hup, htop⟩
  simp only [withExtension, hlast, hname, if_false]
  refine ⟨_, ?_, rfl⟩
  split
  · exact Ne.symm hup
  · exact nameWithExtension_ne last hdot

/-- **A path without a name of a file** keeps itself, and no other does. -/
theorem withExtension_eq_self_iff (hdot : '.' ∈ extension.toList) :
    p.withExtension extension = p ↔ p.fileName? = none := by
  constructor
  · intro hself
    refine Option.eq_none_iff_forall_ne_some.2 fun last h => ?_
    obtain ⟨other, hne, hnames⟩ := names_withExtension hdot h
    obtain ⟨hlast, -⟩ := fileName?_eq_some_iff.1 h
    rw [hself] at hnames
    rw [hnames, List.getLast?_concat] at hlast
    exact hne (Option.some.inj hlast)
  · intro h
    unfold withExtension
    split
    · rfl
    · rename_i last hlast
      split
      · rfl
      · rename_i hname
        have := fileName?_eq_some_iff.2 ⟨hlast, not_or.1 hname⟩
        rw [h] at this
        cases this

end FilePath

namespace FileTree

variable {t : FileTree} {p : FilePath} {directory place : List String} {last extension : String}

theorem HasSlot.fileName?_eq (h : t.HasSlot p directory last) : p.fileName? = some last := by
  refine FilePath.fileName?_eq_some_iff.2 ⟨?_, h.not_up, h.not_top⟩
  rw [h.names_eq]
  exact List.getLast?_concat

theorem slot_withExtension_ne (hdot : '.' ∈ extension.toList)
    (h : t.slot (p.withExtension extension) = .ok place) : t.slot p ≠ .ok place := by
  intro hslot
  obtain ⟨directory, last, rfl, hpath⟩ := hasSlot_of_slot hslot
  obtain ⟨beside, other, hplace, hbeside⟩ := hasSlot_of_slot h
  obtain ⟨name, hne, hnames⟩ := FilePath.names_withExtension hdot hpath.fileName?_eq
  obtain ⟨-, hother⟩ := List.append_inj' hplace rfl
  have hlast := hbeside.names_eq
  rw [hnames, List.dropLast_concat] at hlast
  have hname : [name] = [other] := List.append_cancel_left hlast
  rw [← hname] at hother
  exact hne (List.singleton_inj.1 hother).symm

end FileTree

end CloudDiagram
