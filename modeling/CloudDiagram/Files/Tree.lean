import CloudDiagram.Files.Path

/-!
# File trees

* `FileEntry`, `FileTree`: the files and directories below a working directory;
* `FileError`: why the file system refuses;
* `FileTree.find`: what a path leads to;
* `FileTree.readText`, `write`, `createDirectories`, `rename`, `remove`: the operations.
-/

namespace CloudDiagram

/-- What stands at a place. -/
inductive FileEntry
  | file (content : ByteArray)
  | directory

/-- Two directories, or two files of one content. -/
def FileEntry.same : FileEntry → FileEntry → Bool
  | .file a, .file b => a.data == b.data
  | .directory, .directory => true
  | _, _ => false

/-- **The files and directories below a working directory**, by the names that lead to them. -/
structure FileTree where
  entries : List (List String × FileEntry)

/-- **Why the file system refuses.** -/
inductive FileError
  | notFound
  | busy
  | alreadyExists
  | notADirectory
  | isADirectory
  | tooLong
  | unexpectedNul
  | notText
  deriving DecidableEq

namespace FileError

/-- The bare wording of a refusal. -/
def reason : FileError → String
  | notFound => "No such file or directory"
  | busy => "Device or resource busy"
  | alreadyExists => "File exists"
  | notADirectory => "Not a directory"
  | isADirectory => "Is a directory"
  | tooLong => "File name too long"
  | unexpectedNul => "file name contained an unexpected NUL byte"
  | notText => "stream did not contain valid UTF-8"

/-- The number of a refusal, if the file system gives one. -/
def code? : FileError → Option Nat
  | notFound => some 2
  | busy => some 16
  | alreadyExists => some 17
  | notADirectory => some 20
  | isADirectory => some 21
  | tooLong => some 36
  | unexpectedNul => none
  | notText => none

/-- The name of the sort of a refusal. -/
def sort : FileError → String
  | notFound => "NotFound"
  | busy => "ResourceBusy"
  | alreadyExists => "AlreadyExists"
  | notADirectory => "NotADirectory"
  | isADirectory => "IsADirectory"
  | tooLong => "InvalidFilename"
  | unexpectedNul => "InvalidInput"
  | notText => "InvalidData"

/-- **The wording of a refusal.** -/
def message (e : FileError) : String :=
  match e.code? with
  | some n => e.reason ++ " (os error " ++ toString n ++ ")"
  | none => e.reason

end FileError

namespace FileTree

/-- The tree of an empty working directory. -/
def empty : FileTree := ⟨[]⟩

/-- The place leads upwards only, from the working directory or at the top. -/
def isUpward (place : List String) : Bool :=
  place.all fun name => name == ".." || name == FilePath.top

/-- The place above a place. -/
def above (place : List String) : List String :=
  if place = [FilePath.top] then place
  else if isUpward place then place ++ [".."]
  else place.dropLast

/-- The place that a name leads to from a place. -/
def toward (place : List String) (name : String) : List String :=
  if name = ".." then above place else place ++ [name]

/-- **What stands at a place.** The working directory and what is above it are directories. -/
def get? (t : FileTree) (place : List String) : Option FileEntry :=
  if isUpward place then some .directory
  else (t.entries.find? (·.1 == place)).map (·.2)

/-- The tree with something put at a place. -/
def put (t : FileTree) (place : List String) (e : FileEntry) : FileTree :=
  ⟨(place, e) :: t.entries.filter (·.1 != place)⟩

/-- The tree with nothing at a place. -/
def drop (t : FileTree) (place : List String) : FileTree :=
  ⟨t.entries.filter (·.1 != place)⟩

/-- What stands at a place, if no name on the way there is too long to be looked up. -/
def look (t : FileTree) (place : List String) : Except FileError (Option FileEntry) :=
  if place.all (·.utf8ByteSize ≤ FilePath.nameLimit) then .ok (t.get? place) else .error .tooLong

/-- **The place that names lead to** from a directory; each but the last leads to a directory. -/
def follow (t : FileTree) (place : List String) : List String → Except FileError (List String)
  | [] => .ok place
  | name :: rest => do
    let next := toward place name
    match ← t.look next with
    | none => .error .notFound
    | some .directory => follow t next rest
    | some (.file _) => if rest = [] then .ok next else .error .notADirectory

/-- Why the text of a path is refused before it is followed. -/
def refusal? (p : FilePath) : Option FileError :=
  if p.text.toList.contains '\x00' then some .unexpectedNul
  else if FilePath.textLimit < p.text.utf8ByteSize then some .tooLong
  else if p.text = "" then some .notFound
  else none

/-- **What a path leads to**, and where. -/
def find (t : FileTree) (p : FilePath) : Except FileError (List String × FileEntry) :=
  match refusal? p with
  | some e => .error e
  | none => do
    let place ← t.follow [] p.names
    match t.get? place with
    | none => .error .notFound
    | some .directory => .ok (place, .directory)
    | some (.file content) =>
      if p.ending = .name then .ok (place, .file content) else .error .notADirectory

/-- The path leads to something. -/
def isPresent (t : FileTree) (p : FilePath) : Bool := (t.find p).toBool

/-- The path leads to a directory. -/
def isDirectory (t : FileTree) (p : FilePath) : Bool :=
  match t.find p with
  | .ok (_, .directory) => true
  | _ => false

/-- The bytes of a file. -/
def readBytes (t : FileTree) (p : FilePath) : Except FileError ByteArray := do
  match ← t.find p with
  | (_, .directory) => .error .isADirectory
  | (_, .file content) => .ok content

/-- **The text of a file.** -/
def readText (t : FileTree) (p : FilePath) : Except FileError String := do
  match String.fromUTF8? (← t.readBytes p) with
  | some text => .ok text
  | none => .error .notText

/-- The refusal of a path as the place of a file, where it leads to a directory if to anything. -/
def refuseDirectory (t : FileTree) (names : List String) : FileError :=
  match t.follow [] names with
  | .error e => e
  | .ok place =>
    match t.get? place with
    | some .directory => .isADirectory
    | _ => .notADirectory

/-- **The place of the last name of a path**, in a directory that is there. -/
def slot (t : FileTree) (p : FilePath) : Except FileError (List String) :=
  match refusal? p, p.names.getLast? with
  | some e, _ => .error e
  | none, none => .error .isADirectory
  | none, some last =>
    if last = ".." ∨ last = FilePath.top ∨ p.ending = .dot then
      .error (t.refuseDirectory p.names)
    else do
      let directory ← t.follow [] p.names.dropLast
      match t.get? directory with
      | some .directory => .ok (directory ++ [last])
      | _ => .error .notADirectory

/-- **A file written**, over another one or as a new one. A path that ends with a slash asks for a
directory, whatever is there. -/
def write (t : FileTree) (p : FilePath) (content : ByteArray) : Except FileError FileTree := do
  let place ← t.slot p
  if p.ending = .name then
    match ← t.look place with
    | some .directory => .error .isADirectory
    | _ => .ok (t.put place (.file content))
  else .error .isADirectory

/-- A text written. -/
def writeText (t : FileTree) (p : FilePath) (text : String) : Except FileError FileTree :=
  t.write p text.toUTF8

/-- A directory made where nothing stands. -/
def makeDirectory (t : FileTree) (p : FilePath) : Except FileError FileTree :=
  match t.slot p with
  | .error .isADirectory => .error .alreadyExists
  | .error e => .error e
  | .ok place => do
    match ← t.look place with
    | some _ => .error .alreadyExists
    | none => .ok (t.put place .directory)

/-- A directory made, unless one is there already. -/
def ensureDirectory (t : FileTree) (p : FilePath) : Except FileError FileTree :=
  match t.makeDirectory p with
  | .ok made => .ok made
  | .error e => if t.isDirectory p then .ok t else .error e

/-- The directory of a text and of its names, the last one first, made after those above it, and the
tree that is left even by a refusal. -/
def makeUpTo (t : FileTree) (text : String) : List String → Except FileError Unit × FileTree
  | [] => (.ok (), t)
  | name :: higher =>
    let p : FilePath := ⟨text, (name :: higher).reverse, .name⟩
    match t.ensureDirectory p with
    | .ok made => (.ok (), made)
    | .error .notFound =>
      match makeUpTo t (FilePath.textAbove text) higher with
      | (.error e, left) => (.error e, left)
      | (.ok (), left) =>
        match left.ensureDirectory p with
        | .ok made => (.ok (), made)
        | .error e => (.error e, left)
    | .error e => (.error e, t)

/-- **A directory made**, with those above it that are missing. -/
def createDirectories (t : FileTree) (p : FilePath) : Except FileError Unit × FileTree :=
  t.makeUpTo p.text p.names.reverse

/-- **The place that a file is moved to.** A directory that a path does not call by its name, as in
`d/.` or `d/..`, is in use, and a path with a slash at its end asks for a directory. -/
def landing (t : FileTree) (p : FilePath) : Except FileError (List String) :=
  match t.slot p with
  | .error .isADirectory => .error .busy
  | .error e => .error e
  | .ok place => do
    let entry ← t.look place
    if p.ending = .name then
      match entry with
      | some .directory => .error .isADirectory
      | _ => .ok place
    else .error .notADirectory

/-- **A file moved**, over another one if there is one. -/
def rename (t : FileTree) (source target : FilePath) : Except FileError FileTree := do
  match ← t.find source with
  | (_, .directory) => .error .isADirectory
  | (place, .file content) => return (t.drop place).put (← t.landing target) (.file content)

/-- **A file removed.** -/
def remove (t : FileTree) (p : FilePath) : Except FileError FileTree := do
  match ← t.find p with
  | (_, .directory) => .error .isADirectory
  | (place, .file _) => .ok (t.drop place)

end FileTree

end CloudDiagram
