import CloudDiagram.Proofs.Files.Tree
import CloudDiagram.Proofs.Workspace.Reopen

/-!
# What a file holds

* `FileStore.stored`: the text that a store in a file holds, if there is one;
* `FileStore.load_eq`: what is loaded is the diagram of that text;
* **`FileStore.stored_save`**: a save that is not refused leaves the text of the diagram;
* **`FileStore.stored_clear`**: a clearing leaves none, and is not refused where a text can be read;
* `Workspace.Mirrors`: a workspace over a file and one over memory with the same text and diagram;
* **`mirrors_perform`**: a request has the same answer in both, and they go on mirroring each other.
-/

namespace CloudDiagram

namespace FileStore

/-- **The text that is stored**, if there is one, or why the file cannot be read. -/
def stored (s : FileStore) : Except FileError (Option String) :=
  if s.files.isPresent s.path then (s.files.readText s.path).map some else .ok none

variable {s : FileStore} {slot : Option String}

/-- **What is loaded** is the diagram of the text that is stored. -/
theorem load_eq (h : s.stored = .ok slot) : DiagramStore.load s = loadSlot slot := by
  unfold stored at h
  simp only [DiagramStore.load]
  split at h
  · rename_i hpresent
    cases hread : s.files.readText s.path with
    | error e =>
      rw [hread] at h
      cases h
    | ok text =>
      rw [hread] at h
      cases h
      simp only [hpresent, Bool.not_true, Bool.false_eq_true, if_false]
      rfl
  · rename_i hpresent
    cases h
    simp only [Bool.eq_false_iff.2 hpresent, Bool.not_false, if_true]
    rfl

/-! ## Saving -/

theorem fromUTF8?_toUTF8 (text : String) : String.fromUTF8? text.toUTF8 = some text :=
  dif_pos text.isValidUTF8

theorem stored_of_find {place : List String} {text : String}
    (h : s.files.find s.path = .ok (place, .file text.toUTF8)) : s.stored = .ok (some text) := by
  have hbytes : s.files.readBytes s.path = .ok text.toUTF8 := by
    rw [FileTree.readBytes, h]
    rfl
  have htext : s.files.readText s.path = .ok text := by
    rw [FileTree.readText, hbytes]
    simp only [bind, Except.bind, fromUTF8?_toUTF8]
  have hpresent : s.files.isPresent s.path = true := by
    rw [FileTree.isPresent, h]
    rfl
  rw [stored, if_pos hpresent, htext]
  rfl

/-- A text is written beside the file and then moved over it. -/
theorem saveText_eq_ok {text : String} {moved : FileTree} (h : s.saveText text = (.ok (), moved)) :
    ∃ made written,
      s.files.createDirectories (s.path.parent?.getD (.ofNames [])) = (.ok (), made) ∧
        made.writeText s.temporary text = .ok written ∧
        written.rename s.temporary s.path = .ok moved := by
  unfold saveText at h
  generalize s.files.createDirectories (s.path.parent?.getD (.ofNames [])) = created at h ⊢
  obtain ⟨_ | _, made⟩ := created
  · cases h
  dsimp only at h
  cases hwrite : made.writeText s.temporary text with
  | error e =>
    rw [hwrite] at h
    cases h
  | ok written =>
    rw [hwrite] at h
    dsimp only at h
    cases hmove : written.rename s.temporary s.path with
    | error e =>
      rw [hmove] at h
      cases h
    | ok after =>
      rw [hmove] at h
      cases h
      exact ⟨made, written, rfl, hwrite, hmove⟩

theorem stored_saveText {text : String} (h : (s.saveText text).1 = .ok ()) :
    stored { s with files := (s.saveText text).2 } = .ok (some text) := by
  obtain ⟨made, written, -, hwrite, hmove⟩ := saveText_eq_ok (Prod.ext h rfl)
  obtain ⟨beside, hbeside⟩ := FileTree.find_write hwrite
  obtain ⟨place, hplace⟩ := FileTree.find_rename hbeside hmove
  exact stored_of_find (s := { s with files := (s.saveText text).2 }) hplace

theorem stored_save {d : Diagram} (h : (DiagramStore.save s d).1 = .ok ()) :
    stored (DiagramStore.save s d).2 = .ok (some d.exportText) ∧
      (DiagramStore.save s d).2.path = s.path := by
  refine ⟨stored_saveText ?_, rfl⟩
  simp only [DiagramStore.save] at h
  cases hsave : (s.saveText d.exportText).1 with
  | error e =>
    rw [hsave] at h
    cases h
  | ok a => rfl

/-! ## Clearing -/

/-- **A clearing is not refused** where the stored text can be read, and leaves none. -/
theorem stored_clear (h : s.stored = .ok slot) :
    (DiagramStore.clear s).1 = .ok () ∧ stored (DiagramStore.clear s).2 = .ok none ∧
      (DiagramStore.clear s).2.path = s.path := by
  unfold stored at h
  simp only [DiagramStore.clear]
  split at h
  · rename_i hpresent
    simp only [hpresent, Bool.not_true, Bool.false_eq_true, if_false]
    cases hfind : s.files.find s.path with
    | error e =>
      rw [FileTree.isPresent, hfind] at hpresent
      cases hpresent
    | ok found =>
      obtain ⟨place, content | _⟩ := found
      · have hremove : s.files.remove s.path = .ok (s.files.drop place) := by
          rw [FileTree.remove, hfind]
          rfl
        have hgone : stored { s with files := s.files.drop place } = .ok none := by
          rw [stored, if_neg]
          rw [FileTree.isPresent, FileTree.find_remove hremove]
          exact Bool.false_ne_true
        rw [hremove]
        exact ⟨rfl, hgone, rfl⟩
      · -- a directory has no text
        rw [FileTree.readText, FileTree.readBytes, hfind] at h
        cases h
  · rename_i hpresent
    simp only [Bool.eq_false_iff.2 hpresent, Bool.not_false, if_true, stored, if_false,
      Bool.false_eq_true, and_self]

end FileStore

/-! ## The same session over a file and over memory -/

/-- **The same diagram and the same stored text.** -/
structure Workspace.Mirrors (w : Workspace FileStore) (v : Workspace MemoryStore) : Prop where
  diagram_eq : w.diagram = v.diagram
  stored_eq : w.store.stored = .ok v.store.slot

variable {w : Workspace FileStore} {v : Workspace MemoryStore}

/-- **A request has the same answer** over the file, unless the file system refuses it, and the same
text is stored then, in the same file. -/
theorem mirrors_perform (h : w.Mirrors v) {r : Request}
    (hperformed : ∀ e, (r.perform w).result.1 ≠ .error (.store e)) :
    (r.perform w).result.1 = (r.perform v).result.1 ∧
      (r.perform w).result.2.Mirrors (r.perform v).result.2 ∧
      (r.perform w).result.2.store.path = w.store.path := by
  rw [result_perform, result_perform, ← h.diagram_eq] at *
  generalize r.plan w.diagram = p at *
  cases p with
  | refuse e => exact ⟨rfl, h, rfl⟩
  | save answer next =>
    have hstored := FileStore.stored_save (s := w.store) (d := next)
    simp only [Plan.carryOut] at hperformed ⊢
    generalize DiagramStore.save w.store next = saved at *
    obtain ⟨e | _, store⟩ := saved
    · exact absurd rfl (hperformed e)
    · exact ⟨rfl, ⟨rfl, (hstored rfl).1⟩, (hstored rfl).2⟩
  | clear =>
    obtain ⟨hdone, hstored, hpath⟩ := FileStore.stored_clear h.stored_eq
    simp only [Plan.carryOut]
    generalize DiagramStore.clear w.store = cleared at *
    obtain ⟨e | _, store⟩ := cleared
    · cases hdone
    · exact ⟨rfl, ⟨rfl, hstored⟩, hpath⟩
  | select format => exact ⟨rfl, ⟨h.diagram_eq, h.stored_eq⟩, rfl⟩

end CloudDiagram
