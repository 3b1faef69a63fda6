import CloudDiagram.Files.Tree

/-!
# Changes to files

What a run that starts from some files has to know of them and does to them.

* `FilePath.places`: the places that a path passes;
* `FileTree.Change`: a single change;
* `FileTree.changes`: what leads from one tree to another.
-/

namespace CloudDiagram

/-- The places that names pass on the way from a place. -/
def FileTree.passed (place : List String) : List String → List (List String)
  | [] => []
  | name :: rest =>
    let next := toward place name
    next :: passed next rest

/-- **The places that a path passes**, from the working directory to its end. -/
def FilePath.places (p : FilePath) : List (List String) := FileTree.passed [] p.names

namespace FileTree

/-- **A change at a place.** -/
inductive Change
  | make (place : List String)
  | write (place : List String) (content : ByteArray)
  | remove (place : List String)

/-- What makes an entry stand at a place. -/
def Change.ofEntry (place : List String) : FileEntry → Change
  | .directory => .make place
  | .file content => .write place content

/-- **What leads from one tree to another**: directories and files that are new or different, the
directories above them first, and then the files that are gone. -/
def changes (before next : FileTree) : List Change :=
  (next.entries.reverse.filter fun (place, e) => !(before.get? place).any e.same).map
    (fun (place, e) => .ofEntry place e) ++
  (before.entries.filter fun (place, _) => (next.get? place).isNone).map
    fun (place, _) => .remove place

end FileTree

end CloudDiagram
