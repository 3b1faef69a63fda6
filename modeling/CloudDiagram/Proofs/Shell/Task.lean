import CloudDiagram.Proofs.Workspace.Storable
import CloudDiagram.Shell.Session

/-!
# Tasks of the diagram tool

* `Shell.Task`, `Command.task?`: what a command asks of a workspace;
* `Task.run`, `runTasks`: tasks in a workspace that is open, one after the other;
* `requestsOf`: the requests of tasks, whose kinds come from names (`kindNamed_of_task?`);
* **`result_runCommand`**: a command carries out its task in the workspace that it opens.
-/

namespace CloudDiagram

/-- How an answer is shown. -/
def Answer.shown : Answer → String
  | done => ""
  | .id text => text
  | node n => n.id ++ " (" ++ n.displayName ++ ")"
  | connection c => c.id
  | format f => f.name

namespace Shell

/-! ## Tasks -/

/-- **What a command asks of a workspace**: a request, with what a refusal counts as and the line that
reports on the answer and on the diagram after it, or the document to hand out. -/
inductive Task
  | change (request : Request) (failure : WorkspaceError → ToolError)
      (report : Answer → Diagram → String)
  | handOut

/-- The request of a task, if there is one. -/
def Task.request? : Task → Option Request
  | change request _ _ => some request
  | handOut => none

/-- **The task of a command** that edits the diagram, clears or replaces it, or prints it as a
document. A file to import has to be a text. -/
def Command.task? (files : FileTree) : Command → Option Task
  | .add kind position =>
    some (.change (.addComponent (.ofText (Text.trim kind)) position) .refused
      fun a _ => "Added " ++ a.shown)
  | .set id key value =>
    some (.change (.setProperty id key (.ofInput value)) .refused
      fun _ _ => "Set " ++ id ++ "." ++ key ++ " = " ++ value)
  | .rename id name => some (.change (.renameNode id name) .refused fun _ _ => "Renamed " ++ id)
  | .remove id => some (.change (.removeNode id) .refused fun a _ => "Removed " ++ a.shown)
  | .connect source target =>
    some (.change (.connect source target none none) .refused fun a _ => "Connected " ++ a.shown)
  | .clear => some (.change .clear .refused fun _ _ => "Workspace cleared.")
  | .import input =>
    match files.readText (.ofText input) with
    | .ok text =>
      some (.change (.importText text) .importFailed fun _ d => "Imported " ++ d.extent ++ ".")
    | .error _ => none
  | .export none => some .handOut
  | _ => none

variable {σ : Type} [DiagramStore σ]

/-- **A task in an open workspace**: the line that it reports, or why it fails, and the workspace
after it. -/
def Task.run (w : Workspace σ) : Task → Except ToolError String × Workspace σ
  | change request failure report =>
    match (request.perform w).result with
    | (.error e, next) => (.error (failure e), next)
    | (.ok a, next) => (.ok (report a next.diagram), next)
  | handOut => (w.exportText.result.mapError .refused, w)

/-- **Tasks one after the other** in a workspace that stays open. -/
def runTasks (w : Workspace σ) : List Task → List (Except ToolError String) × Workspace σ
  | [] => ([], w)
  | t :: rest =>
    let (line, next) := t.run w
    let (lines, last) := runTasks next rest
    (line :: lines, last)

/-- **The requests of tasks.** -/
def requestsOf (tasks : List Task) : List Request := tasks.filterMap Task.request?

theorem run_change {w : Workspace σ} {r : Request} {failure : WorkspaceError → ToolError}
    {report : Answer → Diagram → String} :
    ((Task.change r failure report).run w).2 = (r.perform w).result.2 := by
  rw [Task.run]
  obtain ⟨_ | _, next⟩ := (r.perform w).result <;> rfl

theorem eq_handOut_of_request? {t : Task} (h : t.request? = none) : t = .handOut := by
  cases t with
  | change request failure report => cases h
  | handOut => rfl

theorem runTasks_cons (w : Workspace σ) (t : Task) (rest : List Task) :
    runTasks w (t :: rest) =
      ((t.run w).1 :: (runTasks (t.run w).2 rest).1, (runTasks (t.run w).2 rest).2) := rfl

theorem runTasks_concat (w : Workspace σ) (tasks : List Task) (t : Task) :
    runTasks w (tasks ++ [t]) =
      ((runTasks w tasks).1 ++ [(t.run (runTasks w tasks).2).1], (t.run (runTasks w tasks).2).2) := by
  induction tasks generalizing w with
  | nil => rfl
  | cons first rest ih =>
    rw [List.cons_append, runTasks_cons, ih]
    rfl

theorem run_handOut {w : Workspace σ} (h : w.diagram.nodes.isEmpty = false) :
    Task.handOut.run w = (.ok w.diagram.exportText, w) := by
  rw [Task.run, Workspace.exportText, h]
  rfl

theorem forall_diagramsDuring_cons {P : Diagram → Prop} {w : Workspace σ} {t : Task}
    {rest : List Task} (h : ∀ d ∈ diagramsDuring w (requestsOf (t :: rest)), P d) :
    P w.diagram ∧ ∀ d ∈ diagramsDuring (t.run w).2 (requestsOf rest), P d := by
  cases t with
  | change r failure report =>
    rw [run_change]
    exact List.forall_mem_cons.1 h
  | handOut => exact ⟨h _ (mem_diagramsDuring_self _ _), h⟩

theorem kindNamed_of_task? {files : FileTree} {command : Command} {t : Task} {r : Request}
    (ht : command.task? files = some t) (hr : t.request? = some r) : r.KindNamed := by
  cases command with
  | add kind position =>
    cases ht
    cases hr
    exact ⟨_, rfl⟩
  | «import» input =>
    rw [Command.task?] at ht
    split at ht
    · cases ht
      cases hr
      trivial
    · cases ht
  | «export» output =>
    cases output with
    | none =>
      cases ht
      cases hr
    | some path => cases ht
  | generate input format output => cases ht
  | validate input => cases ht
  | formats => cases ht
  | «show» format => cases ht
  | _ =>
    cases ht
    cases hr
    trivial

/-! ## Commands -/

theorem result_printLine (files : FileTree) (line : String) :
    (printLines files [line]).result = (.ok (line ++ "\n"), files) := by
  simp only [printLines, Noted.result_pure, List.map_cons, List.map_nil, String.join,
    List.foldl_cons, List.foldl_nil, String.empty_append]

/-- **An operation is carried out** and reported as the request is that it belongs to. -/
theorem result_operation {α : Type} (request : Request) {operation : Operation FileStore α}
    {answer : α → Answer} (hrequest : request.perform = operation.answer answer)
    {failure : WorkspaceError → ToolError} {line : α → Workspace FileStore → String}
    {report : Answer → Diagram → String} (hline : ∀ a w, line a w = report (answer a) w.diagram)
    (w : Workspace FileStore) :
    (perform operation failure line w).result =
      (((Task.change request failure report).run w).1.map (· ++ "\n"),
        ((Task.change request failure report).run w).2.store.files) := by
  rw [Task.run, hrequest, result_answer, perform, Noted.result_bind]
  obtain ⟨e | a, next⟩ := (operation w).result
  · rfl
  · dsimp only [Except.map]
    rw [result_printLine, hline]

theorem result_handOut (w : Workspace FileStore) :
    (do match ← w.exportText with
        | .error e => fail w.store.files (.refused e)
        | .ok text => emitText w.store.files none text : Step).result =
      ((Task.handOut.run w).1.map (· ++ "\n"), (Task.handOut.run w).2.store.files) := by
  rw [Task.run, Noted.result_bind]
  cases w.exportText.result with
  | error e => rfl
  | ok text => exact result_printLine _ text

theorem result_withWorkspace {files : FileTree} {directory : String} {config : GeneratorConfig}
    {w : Workspace FileStore}
    (h : (Workspace.ofStore (FileStore.inDirectory directory files) config).result = .ok w)
    (next : Workspace FileStore → Step) :
    (withWorkspace files directory config next).result = (next w).result := by
  rw [withWorkspace, Noted.result_bind, h]

/-- **A command carries out its task** in the workspace that it opens. -/
theorem result_runCommand {setting : Setting} {directory : String} {config : GeneratorConfig}
    {command : Command} {task : Task} {w : Workspace FileStore}
    (htask : command.task? setting.files = some task)
    (hopen : (Workspace.ofStore (FileStore.inDirectory directory setting.files) config).result =
      .ok w) :
    (runCommand setting directory config command).result =
      ((task.run w).1.map (· ++ "\n"), (task.run w).2.store.files) := by
  cases command with
  | add kind position =>
    cases htask
    rw [runCommand, result_withWorkspace hopen]
    -- the notice on an unknown kind does not change the result
    refine Eq.trans ?_ (result_operation (.addComponent _ position) rfl (fun _ _ => rfl) w)
    dsimp only
    split <;> rfl
  | set id key value =>
    cases htask
    rw [runCommand, result_withWorkspace hopen]
    refine result_operation (.setProperty id key _) rfl ?_ w
    exact fun _ _ => rfl
  | rename id name =>
    cases htask
    rw [runCommand, result_withWorkspace hopen]
    refine result_operation (.renameNode id name) rfl ?_ w
    exact fun _ _ => rfl
  | remove id =>
    cases htask
    rw [runCommand, result_withWorkspace hopen]
    refine result_operation (.removeNode id) rfl ?_ w
    exact fun _ _ => rfl
  | connect source target =>
    cases htask
    rw [runCommand, result_withWorkspace hopen]
    refine result_operation (.connect source target none none) rfl ?_ w
    exact fun _ _ => rfl
  | clear =>
    cases htask
    rw [runCommand, result_withWorkspace hopen]
    refine result_operation .clear rfl ?_ w
    exact fun _ _ => rfl
  | «import» input =>
    rw [runCommand, withText]
    rw [Command.task?] at htask
    cases htext : setting.files.readText (.ofText input) with
    | error e =>
      rw [htext] at htask
      cases htask
    | ok text =>
      rw [htext] at htask
      cases htask
      dsimp only
      rw [result_withWorkspace hopen]
      refine result_operation (.importText text) rfl ?_ w
      exact fun _ _ => rfl
  | «export» output =>
    cases output with
    | none =>
      cases htask
      rw [runCommand, result_withWorkspace hopen]
      exact result_handOut w
    | some path => cases htask
  | generate input format output => cases htask
  | validate input => cases htask
  | formats => cases htask
  | «show» format => cases htask

end Shell

end CloudDiagram
