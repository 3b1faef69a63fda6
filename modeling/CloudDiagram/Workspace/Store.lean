import CloudDiagram.Exchange.Transfer
import CloudDiagram.Files.Tree

/-!
# Stores

Where a workspace keeps its diagram, as the text of an exchange document.

* `StoreError`, `DiagramStore`: what a store does and how it fails;
* `MemoryStore`: a text in memory;
* `FileStore`: a file;
* `UnreliableStore`: a text in memory, with saves, a load and a clearing that may fail.
-/

namespace CloudDiagram

/-- **Why a store refuses.** -/
inductive StoreError
  | access (path : String) (reason : String)
  | corrupt (reason : String)
  | serialization (reason : String)
  deriving DecidableEq

/-- The wording of a refusal. -/
def StoreError.message : StoreError → String
  | access path reason => "Could not access '" ++ path ++ "': " ++ reason
  | corrupt reason => "Stored diagram is unreadable: " ++ reason
  | serialization reason => "Could not serialize diagram: " ++ reason

/-- **A store**: what it holds, and the store after a save or a clearing. -/
class DiagramStore (σ : Type) where
  load : σ → Noted (Except StoreError (Option Diagram))
  save : σ → Diagram → Except StoreError Unit × σ
  clear : σ → Except StoreError Unit × σ

/-- The diagram of a stored text. -/
def loadText (text : String) : Noted (Except StoreError (Option Diagram)) := do
  match ← importDiagram text with
  | .ok d => return .ok (some d)
  | .error e => return .error (.corrupt e.message)

/-- The diagram of a text, if there is a text. -/
def loadSlot : Option String → Noted (Except StoreError (Option Diagram))
  | none => pure (.ok none)
  | some text => loadText text

/-! ## Memory -/

/-- **A text in memory**, or none. -/
structure MemoryStore where
  slot : Option String
  deriving DecidableEq

instance : DiagramStore MemoryStore where
  load s := loadSlot s.slot
  save _ d := (.ok (), ⟨some d.exportText⟩)
  clear _ := (.ok (), ⟨none⟩)

/-! ## Files -/

/-- The name of the file, without its extension. -/
def storageKey : String := "infraGraphData"

/-- **A file** in a tree of files. -/
structure FileStore where
  path : FilePath
  files : FileTree

namespace FileStore

/-- The store in a directory. -/
def inDirectory (directory : String) (files : FileTree) : FileStore :=
  ⟨(FilePath.ofText directory).child (storageKey ++ ".json"), files⟩

/-- The error of a refusal by the file system. -/
def refuse (s : FileStore) (e : FileError) : StoreError := .access s.path.text e.message

/-- The file that is written before it takes the place of the old one. -/
def temporary (s : FileStore) : FilePath := s.path.withExtension "json.tmp"

/-- The tree after a save, and the refusal that ended it early. -/
def saveText (s : FileStore) (text : String) : Except FileError Unit × FileTree :=
  match s.files.createDirectories (s.path.parent?.getD (.ofNames [])) with
  | (.error e, made) => (.error e, made)
  | (.ok (), made) =>
    match made.writeText s.temporary text with
    | .error e => (.error e, made)
    | .ok written =>
      match written.rename s.temporary s.path with
      | .error e => (.error e, written)
      | .ok moved => (.ok (), moved)

end FileStore

instance : DiagramStore FileStore where
  load s :=
    if !s.files.isPresent s.path then pure (.ok none)
    else match s.files.readText s.path with
      | .error e => pure (.error (s.refuse e))
      | .ok text => loadText text
  save s d :=
    let (outcome, files) := s.saveText d.exportText
    (outcome.mapError s.refuse, { s with files })
  clear s :=
    if !s.files.isPresent s.path then (.ok (), s)
    else match s.files.remove s.path with
      | .error e => (.error (s.refuse e), s)
      | .ok files => (.ok (), { s with files })

/-! ## Unreliable memory -/

/-- **A text in memory behind unreliable access.** Saves are counted from one on, and a save or a
clearing that fails leaves the text as it was. -/
structure UnreliableStore where
  slot : Option String
  saves : Nat
  failsLoad : Option StoreError
  failsSave : Nat → Option StoreError
  failsClear : Option StoreError

instance : DiagramStore UnreliableStore where
  load s :=
    match s.failsLoad with
    | some e => pure (.error e)
    | none => loadSlot s.slot
  save s d :=
    match s.failsSave (s.saves + 1) with
    | some e => (.error e, { s with saves := s.saves + 1 })
    | none => (.ok (), { s with saves := s.saves + 1, slot := some d.exportText })
  clear s :=
    match s.failsClear with
    | some e => (.error e, s)
    | none => (.ok (), { s with slot := none })

end CloudDiagram
