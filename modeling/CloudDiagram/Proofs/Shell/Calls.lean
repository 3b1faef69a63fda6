import CloudDiagram.Proofs.Shell.Task
import CloudDiagram.Proofs.Workspace.Stored

/-!
# Calls of the diagram tool

Every call is a run of its own, which takes the diagram up from its file and leaves it there. One call
after the other, they do what a workspace does that stays open.

* `Shell.Call`: a run of the tool that asks for a task, with the files and the time that it finds;
* `Undisturbed`: nothing but the calls writes to the store;
* **`report_call`**: a call reports what its task comes to in an open workspace, and leaves its text;
* **`calls_are_one_session`**: so do calls one after the other.
-/

namespace CloudDiagram

/-- The store refuses. -/
def WorkspaceError.isOfStore : WorkspaceError → Bool
  | store _ => true
  | _ => false

namespace Shell

/-! ## Calls -/

/-- **A call of the tool that asks for a task**: its arguments are a command that does, and its
configuration can be taken. -/
structure Call where
  setting : Setting
  arguments : List String
  invocation : Invocation
  config : GeneratorConfig
  task : Task
  invocation_eq : Invocation.ofArguments arguments = .ok invocation
  config_eq : (GeneratorConfig.load setting.files invocation.config).result = .ok config
  task_eq : invocation.command.task? setting.files = some task

namespace Call

/-- The call of some arguments, if they ask for a task. -/
def of? (setting : Setting) (arguments : List String) : Option Call :=
  match hinvocation : Invocation.ofArguments arguments with
  | .error _ => none
  | .ok invocation =>
    match hconfig : (GeneratorConfig.load setting.files invocation.config).result with
    | .error _ => none
    | .ok config =>
      match htask : invocation.command.task? setting.files with
      | none => none
      | some task =>
        some ⟨setting, arguments, invocation, config, task, hinvocation, hconfig, htask⟩

/-- The store as the call finds it. -/
def before (c : Call) : FileStore := .inDirectory c.invocation.directory c.setting.files

/-- What the run leaves. -/
def outcome (c : Call) : Outcome := runTool c.setting c.arguments

/-- The store as the call leaves it. -/
def after (c : Call) : FileStore := .inDirectory c.invocation.directory c.outcome.files

/-- The file system refuses a write, a move or a removal that the call asks of it. -/
def isRefused (c : Call) : Bool :=
  match c.task.request?, (Workspace.ofStore c.before c.config).result with
  | some r, .ok w =>
    match (r.perform w).result.1 with
    | .error e => e.isOfStore
    | .ok _ => false
  | _, _ => false

end Call

/-- **Nothing but the calls writes to the store**: each finds the text that the one before left,
whichever way it names the directory. -/
def Undisturbed : Except FileError (Option String) → List Call → Prop
  | _, [] => True
  | left, c :: rest => c.before.stored = left ∧ Undisturbed c.after.stored rest

/-- What is stored after the last call. -/
def lastStored : Except FileError (Option String) → List Call → Except FileError (Option String)
  | left, [] => left
  | _, c :: rest => lastStored c.after.stored rest

/-- **Calls one after the other** from some files, each on the files that the one before left, up to
the first arguments that ask for no task. -/
def callsFrom (files : FileTree) (now : Instant) : List (List String) → List Call
  | [] => []
  | arguments :: rest =>
    match Call.of? ⟨files, now⟩ arguments with
    | none => []
    | some c => c :: callsFrom c.outcome.files now rest

/-- What is seen of a run: its exit code, its output and the error that ended it. -/
def Outcome.report (o : Outcome) : Nat × String × Option String := (o.code, o.output, o.error)

/-- What is to be seen of a task that reports a line or fails. -/
def reportOf : Except ToolError String → Nat × String × Option String
  | .ok line => (0, line ++ "\n", none)
  | .error e => (1, "", some e.message)

theorem Call.setting_of? {setting : Setting} {arguments : List String} {c : Call}
    (h : Call.of? setting arguments = some c) : c.setting = setting := by
  unfold Call.of? at h
  split at h
  · cases h
  · split at h
    · cases h
    · split at h
      · cases h
      · cases h
        rfl

theorem undisturbed_callsFrom {directory : String} {files : FileTree} {now : Instant}
    {arguments : List (List String)}
    (h : ∀ c ∈ callsFrom files now arguments, c.invocation.directory = directory) :
    Undisturbed (FileStore.inDirectory directory files).stored (callsFrom files now arguments) := by
  induction arguments generalizing files with
  | nil => trivial
  | cons first rest ih =>
    unfold callsFrom at h ⊢
    split at h
    · trivial
    · rename_i c hc
      obtain ⟨hdirectory, hrest⟩ := List.forall_mem_cons.1 h
      have hbefore : c.before = .inDirectory directory files := by
        rw [Call.before, hdirectory, Call.setting_of? hc]
      have hafter : c.after = .inDirectory directory c.outcome.files := by
        rw [Call.after, hdirectory]
      refine ⟨congrArg FileStore.stored hbefore, ?_⟩
      rw [hafter]
      exact ih hrest

theorem outcome_of_result {s : Step} {line : Except ToolError String} {files : FileTree}
    (h : s.result = (line.map (· ++ "\n"), files)) :
    s.outcome.report = reportOf line ∧ s.outcome.files = files := by
  unfold Step.outcome
  rw [h]
  cases line <;> exact ⟨rfl, rfl⟩

theorem Call.result_runInvocation (c : Call) {w : Workspace FileStore}
    (hopen : (Workspace.ofStore c.before c.config).result = .ok w) :
    (runInvocation c.setting c.invocation).result =
      ((c.task.run w).1.map (· ++ "\n"), (c.task.run w).2.store.files) := by
  rw [runInvocation, Noted.result_bind, c.config_eq]
  exact result_runCommand c.task_eq hopen

/-- **A task in a workspace over a file** that mirrors one over memory. -/
theorem mirrors_run {w : Workspace FileStore} {v : Workspace MemoryStore} (h : w.Mirrors v)
    {t : Task} (hperformed : ∀ r ∈ t.request?, ∀ e, (r.perform w).result.1 ≠ .error (.store e)) :
    (t.run w).1 = (t.run v).1 ∧ (t.run w).2.store.stored = .ok (t.run v).2.store.slot ∧
      (t.run w).2.store.path = w.store.path := by
  cases t with
  | change request failure report =>
    obtain ⟨hanswer, hnext, hpath⟩ := mirrors_perform h (hperformed request rfl)
    simp only [Task.run]
    generalize (request.perform w).result = done at *
    generalize (request.perform v).result = expected at *
    obtain ⟨answer, next⟩ := done
    obtain ⟨_, next'⟩ := expected
    cases hanswer
    cases answer with
    | error e => exact ⟨rfl, hnext.stored_eq, hpath⟩
    | ok a =>
      have hline := congrArg (report a) hnext.diagram_eq
      exact ⟨congrArg Except.ok hline, hnext.stored_eq, hpath⟩
  | handOut =>
    refine ⟨?_, h.stored_eq, rfl⟩
    simp only [Task.run, Workspace.exportText, h.diagram_eq]

/-- **A call reports what its task comes to** in an open workspace, and leaves the text that is stored
there then. -/
theorem report_call (c : Call) {config : GeneratorConfig} {v : Workspace MemoryStore}
    (hv : v.Settled config) (hstored : c.before.stored = .ok v.store.slot)
    (hperformed : c.isRefused = false) :
    c.outcome.report = reportOf (c.task.run v).1 ∧
      c.after.stored = .ok (c.task.run v).2.store.slot := by
  have hopen := result_ofStore_of_load (FileStore.load_eq hstored) c.config
  generalize hw : (⟨_, _, _, _⟩ : Workspace FileStore) = w at hopen
  have hmirrors : w.Mirrors v := by
    subst hw
    exact ⟨hv.diagram_eq, hstored⟩
  have hrequest : ∀ r ∈ c.task.request?, ∀ e, (r.perform w).result.1 ≠ .error (.store e) := by
    intro r hr e he
    simp only [Call.isRefused, hopen, Option.mem_def.1 hr, he] at hperformed
    cases hperformed
  obtain ⟨hline, hslot, hpath⟩ := mirrors_run hmirrors hrequest
  have hrun : c.outcome = (runInvocation c.setting c.invocation).outcome := by
    rw [Call.outcome, runTool, c.invocation_eq]
  obtain ⟨hreport, hfiles⟩ := outcome_of_result (c.result_runInvocation hopen)
  have hafter : c.after = (c.task.run w).2.store := by
    have hsame : (c.task.run w).2.store.path = c.before.path := by rw [hpath, ← hw]
    rw [Call.after, hrun, hfiles]
    exact congrArg (FileStore.mk · (c.task.run w).2.store.files) hsame.symm
  rw [hafter, hslot, hrun, ← hline]
  exact ⟨hreport, rfl⟩

/-! ## Sessions -/

variable {config : GeneratorConfig} {v : Workspace MemoryStore}

theorem settled_run (h : v.Settled config) (c : Call)
    (hsize : v.diagram.nodes.length < UInt64.size - 1)
    (hfloats : (c.task.run v).2.diagram.FloatsReadBack) : (c.task.run v).2.Settled config := by
  have hkind := fun r => kindNamed_of_task? (r := r) c.task_eq
  cases ht : c.task with
  | change r failure report =>
    rw [ht, run_change] at hfloats
    rw [run_change]
    exact settled_perform h (hkind r (by rw [ht]; rfl)) hsize hfloats
  | handOut => exact h

theorem report_calls (h : v.Settled config) {calls : List Call}
    (halone : Undisturbed (.ok v.store.slot) calls) (hperformed : ∀ c ∈ calls, c.isRefused = false)
    (hdiagrams : ∀ d ∈ diagramsDuring v (requestsOf (calls.map (·.task))),
      d.nodes.length < UInt64.size - 1 ∧ d.FloatsReadBack) :
    calls.map (·.outcome.report) = (runTasks v (calls.map (·.task))).1.map reportOf ∧
      lastStored (.ok v.store.slot) calls =
        .ok (runTasks v (calls.map (·.task))).2.store.slot := by
  induction calls generalizing v with
  | nil => exact ⟨rfl, rfl⟩
  | cons c rest ih =>
    obtain ⟨hfound, hrest⟩ := halone
    obtain ⟨hc, hlater⟩ := List.forall_mem_cons.1 hperformed
    obtain ⟨hnow, hnext⟩ := forall_diagramsDuring_cons hdiagrams
    obtain ⟨hreport, hleft⟩ := report_call c h hfound hc
    have hfloats := (hnext _ (mem_diagramsDuring_self _ _)).2
    rw [hleft] at hrest
    obtain ⟨hreports, hlast⟩ := ih (settled_run h c hnow.1 hfloats) hrest hlater hnext
    refine ⟨?_, ?_⟩
    · rw [List.map_cons, hreport, hreports]
      rfl
    · rw [lastStored, hleft, hlast]
      rfl

/-- **Calls one after the other are one session.** Whatever text is stored at first, or none, calls
that nobody interferes with report what their tasks come to, one after the other, in a workspace that
stays open over memory with that text; and the text that is stored at the end is the same. The file
system performs what they ask for and numbers are read from their own text. No list in memory has
`2^64 - 1` components. -/
theorem calls_are_one_session (slot : Option String) (config : GeneratorConfig) {calls : List Call}
    (halone : Undisturbed (.ok slot) calls) (hperformed : ∀ c ∈ calls, c.isRefused = false) :
    ∃ v, (Workspace.ofStore (MemoryStore.mk slot) config).result = .ok v ∧
      ((∀ d ∈ diagramsDuring v (requestsOf (calls.map (·.task))),
          d.nodes.length < UInt64.size - 1 ∧ d.FloatsReadBack) →
        calls.map (·.outcome.report) = (runTasks v (calls.map (·.task))).1.map reportOf ∧
          lastStored (.ok slot) calls = .ok (runTasks v (calls.map (·.task))).2.store.slot) :=
  ⟨_, result_ofStore _ config, fun hdiagrams =>
    report_calls (settled_ofStore _ config) halone hperformed hdiagrams⟩

/-- Calls on a file that holds no diagram: the first one changes nothing, the second one replaces it, and
the third one prints what is stored then. -/
def sketchCalls : List Call :=
  callsFrom ⟨[(["infraGraphData.json"], .file "[]".toUTF8)]⟩ ⟨0, 0⟩ [
    ["import", "infraGraphData.json"],
    ["add", " lambda ", "--x", "5"],
    ["export"]]

/-- The diagram that they leave. -/
def sketchDiagram : Diagram where
  nodes := [{
    Node.ofKind "node-1" .lambda "Lambda" with
    label := some "Lambda"
    position := ⟨.ofNat 5, .zero⟩ }]
  edges := []

theorem calls_are_one_session_sketch :
    Undisturbed (.ok (some "[]")) sketchCalls ∧ (∀ c ∈ sketchCalls, c.isRefused = false) ∧
      sketchCalls.map (·.task.request?) =
        [some (.importText "[]"), some (.addComponent .lambda ⟨.ofNat 5, .zero⟩), none] ∧
      ∃ v, (Workspace.ofStore (MemoryStore.mk (some "[]")) .default).result = .ok v ∧
        (∀ d ∈ diagramsDuring v (requestsOf (sketchCalls.map (·.task))),
          d.nodes.length < UInt64.size - 1 ∧ d.FloatsReadBack) ∧
        sketchCalls.map (·.outcome.report) =
          (runTasks v (sketchCalls.map (·.task))).1.map reportOf ∧
        sketchCalls.map (·.outcome.report) = [
          (1, "", some ("Import failed: " ++ ImportError.notAnObject.message)),
          (0, "Added node-1\n", none),
          (0, sketchDiagram.exportText ++ "\n", none)] := by
  have hstored : (FileStore.inDirectory "."
      ⟨[(["infraGraphData.json"], .file "[]".toUTF8)]⟩).stored = .ok (some "[]") := by
    decide +kernel
  have halone : Undisturbed (.ok (some "[]")) sketchCalls :=
    hstored ▸ undisturbed_callsFrom (by decide +kernel)
  have hasked : (∀ c ∈ sketchCalls, c.isRefused = false) ∧
      sketchCalls.map (·.task.request?) =
        [some (.importText "[]"), some (.addComponent .lambda ⟨.ofNat 5, .zero⟩), none] := by
    decide +kernel
  obtain ⟨hperformed, hrequests⟩ := hasked
  obtain ⟨v, hopen, hsession⟩ := calls_are_one_session (some "[]") .default halone hperformed
  have hv := Except.ok.inj (hopen.symm.trans (result_ofStore _ _))
  have htasks : (∀ d ∈ diagramsDuring v (requestsOf (sketchCalls.map (·.task))),
        d.nodes.length < UInt64.size - 1 ∧ d.FloatsReadBack) ∧
      (runTasks v ((sketchCalls.map (·.task)).take 2)).1.map reportOf = [
        (1, "", some ("Import failed: " ++ ImportError.notAnObject.message)),
        (0, "Added node-1\n", none)] ∧
      (runTasks v ((sketchCalls.map (·.task)).take 2)).2.diagram = sketchDiagram := by
    subst hv
    decide +kernel
  obtain ⟨hdiagrams, hlines, hdiagram⟩ := htasks
  -- the last task hands out the diagram that the others leave
  have hlast : sketchCalls.map (·.task) = (sketchCalls.map (·.task)).take 2 ++ [.handOut] := by
    have hlength : sketchCalls.length = 3 := by simpa using congrArg List.length hrequests
    obtain ⟨c₁, c₂, c₃, hcalls⟩ := List.length_eq_three.1 hlength
    rw [hcalls] at hrequests ⊢
    obtain ⟨-, -, hnone, -⟩ : _ ∧ _ ∧ c₃.task.request? = none ∧ _ := by
      simpa only [List.map_cons, List.map_nil, List.cons.injEq] using hrequests
    rw [List.map_cons, List.map_cons, List.map_cons, eq_handOut_of_request? hnone]
    rfl
  have hreports := (hsession hdiagrams).1
  refine ⟨halone, hperformed, hrequests, v, hopen, hdiagrams, hreports, hreports.trans ?_⟩
  rw [hlast, runTasks_concat, List.map_append, hlines, run_handOut (by rw [hdiagram]; rfl), hdiagram]
  rfl

end Shell

end CloudDiagram
