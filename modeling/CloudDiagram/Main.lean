import CloudDiagram.Files.Change
import CloudDiagram.Shell.Sampler
import Std.Time.DateTime.Timestamp

/-!
# The command line

A run takes the files that it can touch into a tree, computes what it leaves, and then prints the
output and makes the changes.

* `treeOf`, `apply`: the files of a run and the changes to them;
* `main`: the diagram tool, or the sampler under the name of `sampler`.
-/

namespace CloudDiagram.Shell

/-- What stands at a place. -/
def entryAt (place : List String) : IO (Option FileEntry) := do
  let path := FilePath.textOf place
  if ← ((← IO.currentDir) / path).isDir then return some .directory
  try return some (.file (← IO.FS.readBinFile path))
  catch _ => return none

/-- **The files of some paths**, with the directories on the way. -/
def treeOf (paths : List FilePath) : IO FileTree :=
  (paths.flatMap FilePath.places).foldlM (fun t place => do
    match t.get? place, ← entryAt place with
    | none, some e => return t.put place e
    | _, _ => return t) .empty

/-- **A change made.** -/
def apply : FileTree.Change → IO Unit
  | .make place => IO.FS.createDirAll (FilePath.textOf place)
  | .write place content => IO.FS.writeBinFile (FilePath.textOf place) content
  | .remove place => IO.FS.removeFile (FilePath.textOf place)

/-- The present instant. -/
def presentInstant : IO Instant := do
  let nanos := (← Std.Time.Timestamp.now).toNanosecondsSinceUnixEpoch.val
  return ⟨nanos.fdiv nanosPerSecond, (nanos.fmod nanosPerSecond).toNat⟩

/-- A source of random numbers. -/
def randomSource : IO StdGen := do
  let bytes ← IO.getRandomBytes 8
  return mkStdGen (bytes.foldl (fun n b => 256 * n + b.toNat) 0)

/-- The outcome of a run that started from some files, made real. -/
def finish (before : FileTree) (shows : Notice → Bool) (o : Outcome) : IO UInt32 := do
  (before.changes o.files).forM apply
  (o.notices.filter shows).forM fun n => IO.eprintln n.line
  IO.print o.output
  match o.error with
  | none => pure ()
  | some e => IO.eprintln ("\nError: " ++ e)
  return UInt32.ofNat o.code

/-- The diagram tool. -/
def tool (arguments : List String) : IO UInt32 := do
  match Invocation.ofArguments arguments with
  | .error r => finish .empty (fun _ => true) (refusalOutcome .empty r)
  | .ok i =>
    let files ← treeOf i.paths
    finish files i.shows (runInvocation ⟨files, ← presentInstant⟩ i).outcome

/-- The sampler. -/
def sampler (arguments : List String) : IO UInt32 := do
  let paths := match SampleRequest.ofArguments arguments with
    | .error _ => []
    | .ok request => [.ofText request.output]
  let files ← treeOf paths
  finish files (fun _ => true) (runSampler files (← randomSource) arguments)

end CloudDiagram.Shell

/-- **The diagram tool**, or the sampler if the program goes by that name. -/
def main (arguments : List String) : IO UInt32 := do
  if (← IO.appPath).fileStem == some "sampler" then CloudDiagram.Shell.sampler arguments
  else CloudDiagram.Shell.tool arguments
