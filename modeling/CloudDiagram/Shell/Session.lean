import CloudDiagram.Generation.ConfigFile
import CloudDiagram.Shell.Command
import CloudDiagram.Workspace.Basic

/-!
# Running the diagram tool

* `Outcome`: what a run prints, how it ends and which files it leaves;
* `ToolError`: why a command fails;
* `runCommand`: a command with its configuration;
* `runTool`: the arguments of the diagram tool;
* `Invocation.paths`, `Invocation.shows`: the files that a run can touch, and the notices that it
  shows.
-/

namespace CloudDiagram.Shell

/-- **What a run leaves**: its exit code, its output, the error that ended it, the notices given on the
way and the files. -/
structure Outcome where
  code : Nat
  output : String
  error : Option String
  notices : List Notice
  files : FileTree

/-- What a run reads beside its arguments. -/
structure Setting where
  files : FileTree
  now : Instant

/-- **Why a command fails.** -/
inductive ToolError
  | config (error : ConfigError)
  | unreadable (path : String) (error : FileError)
  | unwritable (path : String) (error : FileError)
  | invalidDiagram (error : ImportError)
  | importFailed (error : WorkspaceError)
  | notOpened (error : WorkspaceError)
  | refused (error : WorkspaceError)

/-- The wording of a failure. -/
def ToolError.message : ToolError → String
  | config e => e.message
  | unreadable path e => "Failed to read '" ++ path ++ "': " ++ e.message
  | unwritable path e => "Failed to write '" ++ path ++ "': " ++ e.message
  | invalidDiagram e => "Invalid diagram: " ++ e.message
  | importFailed e => "Import failed: " ++ e.message
  | notOpened e => "Failed to open workspace: " ++ e.message
  | refused e => e.message

/-- **A step of a run**: an output or an error, with notices and with the files after it. -/
abbrev Step := Noted (Except ToolError String × FileTree)

/-- The outcome of a step. -/
def Step.outcome (s : Step) : Outcome :=
  match s.result with
  | (.ok output, files) => ⟨0, output, none, s.notices, files⟩
  | (.error e, files) => ⟨1, "", some e.message, s.notices, files⟩

/-- A step that fails. -/
def fail (files : FileTree) (e : ToolError) : Step := pure (.error e, files)

/-- A step that prints lines. -/
def printLines (files : FileTree) (ls : List String) : Step :=
  pure (.ok (String.join (ls.map (· ++ "\n"))), files)

/-! ## Files -/

/-- A step with the text of a file. -/
def withText (files : FileTree) (path : String) (next : String → Step) : Step :=
  match files.readText (.ofText path) with
  | .error e => fail files (.unreadable path e)
  | .ok text => next text

/-- A step with the diagram of a file, and what a defect of it counts as. -/
def withDiagram (files : FileTree) (path : String) (failure : ImportError → ToolError)
    (next : Diagram → Step) : Step :=
  withText files path fun text => do
    match ← importDiagram text with
    | .error e => fail files (failure e)
    | .ok d => next d

/-- A text printed, or written to a file. -/
def emitText (files : FileTree) (output : Option String) (text : String) : Step :=
  match output with
  | none => printLines files [text]
  | some path =>
    match files.writeText (.ofText path) text with
    | .error e => fail files (.unwritable path e)
    | .ok written => printLines written ["Wrote " ++ path]

/-! ## The workspace -/

/-- A step with the workspace of a directory. -/
def withWorkspace (files : FileTree) (directory : String) (config : GeneratorConfig)
    (next : Workspace FileStore → Step) : Step := do
  match ← Workspace.ofStore (FileStore.inDirectory directory files) config with
  | .error e => fail files (.notOpened e)
  | .ok w => next w

/-- An operation on a workspace, what a refusal counts as, and the line that reports the result. -/
def perform {α : Type} (operation : Operation FileStore α) (failure : WorkspaceError → ToolError)
    (report : α → Workspace FileStore → String) (w : Workspace FileStore) : Step := do
  match ← operation w with
  | (.error e, next) => fail next.store.files (failure e)
  | (.ok a, next) => printLines next.store.files [report a next]

/-- A text with spaces after it, to a number of characters. -/
def padRight (width : Nat) (s : String) : String :=
  s ++ String.ofList (List.replicate (width - s.length) ' ')

/-- The lines of a component. -/
def nodeLines (n : Node) : List String :=
  (padRight 10 n.id ++ " " ++ padRight 14 n.kind.text ++ " " ++ padRight 24 n.displayName ++
    " (" ++ n.position.x.plain ++ ", " ++ n.position.y.plain ++ ")") ::
  n.properties.entries.map fun (key, v) => padRight 13 "" ++ key ++ " = " ++ v.shown

/-- The line of a connection. -/
def edgeLine (c : Connection) : String := c.id ++ ": " ++ c.source ++ " -> " ++ c.target

/-- The lines of a workspace and of its preview. -/
def workspaceLines (d : Diagram) (preview : GeneratedDocument) : List String :=
  ["--- Components (" ++ toString d.nodes.length ++ ") ---"] ++ d.nodes.flatMap nodeLines ++
  ["", "--- Connections (" ++ toString d.edges.length ++ ") ---"] ++ d.edges.map edgeLine ++
  ["", "--- " ++ preview.fileName ++ " (" ++ toString preview.lineCount ++ " lines, " ++
    toString preview.byteSize ++ " bytes) ---",
    preview.text]

/-! ## Commands -/

/-- The text of components, printed or written to a file. -/
def generateText (setting : Setting) (config : GeneratorConfig) (format : Format)
    (output : Option String) (files : FileTree) (d : Diagram) : Step := do
  let document ← (Generator.ofConfig config).document d.nodes format setting.now
  emitText files output document.text

/-- The report on a diagram that can be imported. -/
def validationLines (d : Diagram) : List String :=
  let unknown := (d.nodes.filter (!·.kind.isKnown)).length
  ("Valid diagram: " ++ toString d.nodes.length ++ " components, " ++
    toString d.edges.length ++ " connections") ::
  if unknown = 0 then []
  else ["  " ++ toString unknown ++ " component(s) have an unknown type"]

/-- The lines of the registered formats. -/
def formatLines (g : Generator) : List String :=
  g.formats.map fun name =>
    padRight 10 name ++ " " ++
      (match Format.ofText name with
      | .ok f => f.label
      | .error _ => "custom")

/-- **A command with its configuration.** -/
def runCommand (setting : Setting) (directory : String) (config : GeneratorConfig) :
    Command → Step
  | .generate (some path) format output =>
    withDiagram setting.files path (fun e => .importFailed (.badImport e))
      (generateText setting config format output setting.files)
  | .generate none format output =>
    withWorkspace setting.files directory config fun w =>
      generateText setting config format output w.store.files w.diagram
  | .validate input =>
    withDiagram setting.files input .invalidDiagram fun d =>
      printLines setting.files (validationLines d)
  | .formats => printLines setting.files (formatLines (Generator.ofConfig config))
  | .add kind position =>
    withWorkspace setting.files directory config fun w => do
      let k := Kind.ofText (Text.trim kind)
      if !k.isKnown then
        Noted.say .warning ("'" ++ k.text ++ "' is not a catalog component type")
      perform (Workspace.addComponent k position) .refused (fun id _ => "Added " ++ id) w
  | .set id key value =>
    withWorkspace setting.files directory config fun w =>
      perform (Workspace.setProperty id key (.ofInput value)) .refused
        (fun _ _ => "Set " ++ id ++ "." ++ key ++ " = " ++ value) w
  | .rename id name =>
    withWorkspace setting.files directory config fun w =>
      perform (Workspace.renameNode id name) .refused (fun _ _ => "Renamed " ++ id) w
  | .remove id =>
    withWorkspace setting.files directory config fun w =>
      perform (Workspace.removeNode id) .refused
        (fun n _ => "Removed " ++ n.id ++ " (" ++ n.displayName ++ ")") w
  | .connect source target =>
    withWorkspace setting.files directory config fun w =>
      perform (Workspace.connect source target none none) .refused
        (fun id _ => "Connected " ++ id) w
  | .clear =>
    withWorkspace setting.files directory config fun w =>
      perform Workspace.clear .refused (fun _ _ => "Workspace cleared.") w
  | .export output =>
    withWorkspace setting.files directory config fun w => do
      match ← w.exportText with
      | .error e => fail w.store.files (.refused e)
      | .ok text => emitText w.store.files output text
  | .import input =>
    withText setting.files input fun text =>
      withWorkspace setting.files directory config fun w =>
        perform (Workspace.importText text) .importFailed
          (fun _ next => "Imported " ++ next.diagram.extent ++ ".") w
  | .show format =>
    withWorkspace setting.files directory config fun w => do
      let preview ← { w with format }.document setting.now
      printLines w.store.files (workspaceLines w.diagram preview)

/-- An invocation, which first takes its configuration. -/
def runInvocation (setting : Setting) (i : Invocation) : Step := do
  match ← GeneratorConfig.load setting.files i.config with
  | .error e => fail setting.files (.config e)
  | .ok config => runCommand setting i.directory config i.command

/-- The name and the version of the tools. -/
def versionLine : String := "infragraph 0.1.0"

/-- The outcome of arguments that are no command. -/
def refusalOutcome (files : FileTree) : Refusal → Outcome
  | .usage => ⟨2, "", some "invalid arguments", [], files⟩
  | .version => ⟨0, versionLine ++ "\n", none, [], files⟩

/-- **The arguments of the diagram tool run.** -/
def runTool (setting : Setting) (arguments : List String) : Outcome :=
  match Invocation.ofArguments arguments with
  | .error r => refusalOutcome setting.files r
  | .ok i => (runInvocation setting i).outcome

/-! ## The surroundings of a run -/

/-- The files that a command names. -/
def Command.paths : Command → List String
  | .generate input _ output => input.toList ++ output.toList
  | .validate input | .import input => [input]
  | .export output => output.toList
  | _ => []

/-- **The files that a run can touch**: those that it names and those of its workspace. -/
def Invocation.paths (i : Invocation) : List FilePath :=
  let store := FileStore.inDirectory i.directory .empty
  [store.path, store.temporary] ++ (i.config.toList ++ i.command.paths).map .ofText

/-- A notice that is heavy enough to be shown: warnings and errors always, others if asked for. -/
def Invocation.shows (i : Invocation) (n : Notice) : Bool := 2 ≤ n.level.weight + i.verbosity

end CloudDiagram.Shell
