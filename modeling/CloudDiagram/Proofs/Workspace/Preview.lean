import CloudDiagram.Proofs.Generation.Reads
import CloudDiagram.Proofs.Workspace.Commuting

/-!
# Previews that a request leaves as they were

* `Workspace.preview`: the preview in a format;
* `Request.SparesPreviews`: a request that writes nothing that resource files or manifests read;
* `sameSettings_of_plan`, `sameSettings_perform`: what it leaves of the components;
* `generator_runRequests`: the emitters of a session are those that are built in;
* **`previews_ignore_the_rest`**: the previews depend on what generation reads, and on nothing else.
-/

namespace CloudDiagram

/-! ## Resolved properties -/

namespace PropertySpec

variable {spec : PropertySpec} {p q : Properties}

theorem resolveText_congr (h : p.get? spec.key = q.get? spec.key) :
    spec.resolveText p = spec.resolveText q := by
  rw [resolveText, resolveText, h]

theorem resolveWord_congr (h : p.get? spec.key = q.get? spec.key) :
    spec.resolveWord p = spec.resolveWord q := by
  rw [resolveWord, resolveWord, h]

theorem resolveBool_congr (h : p.get? spec.key = q.get? spec.key) :
    spec.resolveBool p = spec.resolveBool q := by
  rw [resolveBool, resolveBool, h]

end PropertySpec

/-- The keys of the properties that resource files read. -/
def generatedKeys : List String := ["instanceType", "storage", "engine", "instanceClass", "multiAZ"]

namespace Node

variable {key : String}

theorem SameNames.refl (n : Node) : n.SameNames n := ⟨rfl, rfl, rfl⟩

theorem SameSettings.refl (n : Node) : n.SameSettings n :=
  ⟨.refl n, fun _ => ⟨rfl, rfl⟩, fun _ => ⟨rfl, rfl, rfl⟩⟩

theorem sameSettings_insert (h : key ∉ generatedKeys) (value : PropertyValue) (n : Node) :
    n.SameSettings { n with properties := n.properties.insert key value } := by
  have hkept (k : String) (hk : k ∈ generatedKeys) :
      n.properties.get? k = (n.properties.insert key value).get? k := by
    have hne : k ≠ key := fun heq => h (heq ▸ hk)
    rw [KeyMap.get?_insert, if_neg hne]
  refine ⟨⟨rfl, rfl, rfl⟩, fun _ => ⟨?size, ?disk⟩, fun _ => ⟨?engine, ?power, ?standby⟩⟩
  case size => exact PropertySpec.resolveText_congr (hkept "instanceType" (by decide))
  case disk =>
    exact congrArg Noted.result (PropertySpec.resolveWord_congr (hkept "storage" (by decide)))
  case engine => exact PropertySpec.resolveText_congr (hkept "engine" (by decide))
  case power => exact PropertySpec.resolveText_congr (hkept "instanceClass" (by decide))
  case standby =>
    exact congrArg Noted.result (PropertySpec.resolveBool_congr (hkept "multiAZ" (by decide)))

end Node

theorem forall₂_changeFirst {R : Node → Node → Prop} {change : Node → Node} (hrefl : ∀ n, R n n)
    (hchange : ∀ n, R n (change n)) (id : String) (nodes : List Node) :
    List.Forall₂ R nodes (Diagram.changeFirst id change nodes) := by
  induction nodes with
  | nil => exact .nil
  | cons n rest ih =>
    unfold Diagram.changeFirst
    split
    · exact .cons (hchange n) (List.forall₂_same.2 fun m _ => hrefl m)
    · exact .cons (hrefl n) ih

/-! ## Requests -/

/-- **The request writes nothing that resource files or manifests read.** -/
def Request.SparesPreviews : Request → Prop
  | moveNode _ _ => True
  | connect _ _ _ _ => True
  | disconnect _ => True
  | setProperty _ key _ => key ∉ generatedKeys
  | _ => False

theorem Request.SparesPreviews.edits {r : Request} (h : r.SparesPreviews) : r.Edits := by
  cases r with
  | moveNode | connect | disconnect | setProperty => trivial
  | _ => exact h.elim

variable {d next : Diagram} {answer : Answer} {r : Request}

theorem sameSettings_of_overwrite {id : String} {o : Overwrite} (hr : r.overwrite? = some (id, o))
    (hsame : ∀ n, Node.SameSettings n (o.apply n)) (h : r.plan d = .save answer next) :
    List.Forall₂ Node.SameSettings d.nodes next.nodes := by
  rw [plan_overwrite hr] at h
  cases hnext : d.overwritten id o with
  | error e =>
    rw [hnext] at h
    cases h
  | ok saved =>
    rw [hnext] at h
    cases h
    obtain ⟨-, -, rfl⟩ := Diagram.overwritten_eq_ok_iff.1 hnext
    exact forall₂_changeFirst Node.SameSettings.refl hsame id d.nodes

/-- What is saved by a request that spares the previews has components with the same settings. -/
theorem sameSettings_of_plan (hr : r.SparesPreviews) (h : r.plan d = .save answer next) :
    List.Forall₂ Node.SameSettings d.nodes next.nodes := by
  have hsame : List.Forall₂ Node.SameSettings d.nodes d.nodes :=
    List.forall₂_same.2 fun n _ => .refl n
  cases r with
  | setProperty id key value =>
    exact sameSettings_of_overwrite (o := .property key value) rfl
      (Node.sameSettings_insert hr value) h
  | moveNode id position =>
    refine sameSettings_of_overwrite (o := .move position) rfl (fun n => ?_) h
    exact ⟨⟨rfl, rfl, rfl⟩, fun _ => ⟨rfl, rfl⟩, fun _ => ⟨rfl, rfl, rfl⟩⟩
  | connect source target sourceHandle targetHandle =>
    rw [Request.plan] at h
    split at h
    · cases h
    · obtain ⟨_, hedit, -⟩ := eq_save_of_ofEdit h
      rw [Diagram.result_addEdge] at hedit
      cases hedit
      exact hsame
  | disconnect id =>
    obtain ⟨_, hedit, -⟩ := eq_save_of_ofEdit h
    rw [Diagram.result_removeEdge] at hedit
    split at hedit
    · cases hedit
    · cases hedit
      exact hsame
  | _ => exact hr.elim

variable {σ : Type} [DiagramStore σ] {w : Workspace σ}

/-- **A request that spares the previews** leaves components with the same settings, whether it is
refused or not. -/
theorem sameSettings_perform (hr : r.SparesPreviews) (w : Workspace σ) :
    List.Forall₂ Node.SameSettings w.diagram.nodes (r.perform w).result.2.diagram.nodes := by
  have hsame : List.Forall₂ Node.SameSettings w.diagram.nodes w.diagram.nodes :=
    List.forall₂_same.2 fun n _ => .refl n
  rw [result_perform]
  obtain ⟨e, hplan⟩ | ⟨answer, next, hplan⟩ := hr.edits.plan w.diagram
  · rw [hplan]
    exact hsame
  · rw [hplan, Plan.carryOut]
    obtain ⟨_ | _, store⟩ := DiagramStore.save w.store next
    · exact hsame
    · exact sameSettings_of_plan hr hplan

/-! ## Sessions -/

theorem generator_carryOut (p : Plan) (w : Workspace σ) :
    (p.carryOut w).2.generator = w.generator := by
  cases p with
  | refuse e => rfl
  | save answer next =>
    rw [Plan.carryOut]
    obtain ⟨_ | _, store⟩ := DiagramStore.save w.store next <;> rfl
  | clear =>
    rw [Plan.carryOut]
    obtain ⟨_ | _, store⟩ := DiagramStore.clear w.store <;> rfl
  | select format => rfl

theorem generator_perform (r : Request) (w : Workspace σ) :
    (r.perform w).result.2.generator = w.generator := by
  rw [result_perform]
  exact generator_carryOut _ w

theorem generator_runRequests (w : Workspace σ) (requests : List Request) :
    (runRequests w requests).result.2.generator = w.generator := by
  induction requests generalizing w with
  | nil => rfl
  | cons r rest ih =>
    rw [result_runRequests_cons]
    exact (ih _).trans (generator_perform r w)

theorem generator_ofStore {store : σ} {config : GeneratorConfig}
    (h : (Workspace.ofStore store config).result = .ok w) : w.generator = .ofConfig config := by
  rw [Workspace.ofStore, Noted.result_bind] at h
  split at h
  · cases h; rfl
  · cases h; rfl
  · cases h; rfl
  · cases h

/-- **The preview in a format**, at some time. -/
def Workspace.preview (w : Workspace σ) (f : Format) (now : Instant) : GeneratedDocument :=
  (Workspace.document { w with format := f } now).result

/-- **Previews ignore what generation does not read.** For one configuration and at any two times,
manifests are the same for components with the same kinds, names and labels in the same order, and
resource files if the settings are the same too. So in every state of every session, a move, a
connection, a disconnection and a change of another property leave both as they were. -/
theorem previews_ignore_the_rest (config : GeneratorConfig) :
    (∀ nodes nodes' now now', List.Forall₂ Node.SameNames nodes nodes' →
      ((Generator.ofConfig config).document nodes .yaml now).result =
        ((Generator.ofConfig config).document nodes' .yaml now').result) ∧
    (∀ nodes nodes' now now', List.Forall₂ Node.SameSettings nodes nodes' →
      ((Generator.ofConfig config).document nodes .terraform now).result =
        ((Generator.ofConfig config).document nodes' .terraform now').result) ∧
    ∀ (store : σ) w, (Workspace.ofStore store config).result = .ok w →
      ∀ (requests : List Request) (r : Request), r.SparesPreviews →
      ∀ f ∈ [Format.terraform, Format.yaml], ∀ now now',
        (r.perform (runRequests w requests).result.2).result.2.preview f now' =
          (runRequests w requests).result.2.preview f now := by
  refine ⟨fun nodes nodes' now now' h => document_yaml_congr h config now now',
    fun nodes nodes' now now' h => document_terraform_congr h config now now',
    fun store w hopen requests r hr f hf now now' => ?_⟩
  have hgenerator : (runRequests w requests).result.2.generator = .ofConfig config :=
    (generator_runRequests w requests).trans (generator_ofStore hopen)
  generalize (runRequests w requests).result.2 = v at hgenerator ⊢
  have hsettings := sameSettings_perform hr v
  have hnames : List.Forall₂ Node.SameNames v.diagram.nodes
      (r.perform v).result.2.diagram.nodes := hsettings.imp fun _ _ h => h.toSameNames
  simp only [Workspace.preview, Workspace.document, generator_perform, hgenerator]
  obtain rfl | rfl : f = .terraform ∨ f = .yaml := by simpa using hf
  · exact (document_terraform_congr hsettings config now now').symm
  · exact (document_yaml_congr hnames config now now').symm

/-- Two servers with one name, whose disks are given as a number and as a text. -/
def webByNumber : Node :=
  { Node.ofKind "a" .server "Web" with properties := .ofList [("storage", .number (.ofWord 40))] }

@[inherit_doc webByNumber]
def webByText : Node :=
  ⟨"b", .server, "Web", none, quickAddPosition,
    .ofList [("region", .text "us-west-2"), ("storage", .text " 40 ")]⟩

theorem previews_ignore_the_rest_web :
    List.Forall₂ Node.SameSettings [webByNumber] [webByText] ∧
      ((Generator.ofConfig .default).document [webByNumber] .terraform ⟨0, 0⟩).result =
        ((Generator.ofConfig .default).document [webByText] .terraform ⟨1, 2⟩).result ∧
      ((Generator.ofConfig .default).document [webByNumber] .yaml ⟨0, 0⟩).result =
        ((Generator.ofConfig .default).document [webByText] .yaml ⟨1, 2⟩).result ∧
      ∃ w, (Workspace.ofStore (MemoryStore.mk (some "no document")) .default).result = .ok w ∧
        ((Request.setProperty "node-1" "region" (.text "us-west-2")).perform
            (runRequests w sketchRequests).result.2).result.2.preview .terraform ⟨1, 2⟩ =
          (runRequests w sketchRequests).result.2.preview .terraform ⟨0, 0⟩ := by
  obtain ⟨hyaml, hterraform, hsession⟩ := previews_ignore_the_rest (σ := MemoryStore) .default
  have hsame : Node.SameSettings webByNumber webByText :=
    ⟨⟨rfl, rfl, rfl⟩, fun _ => ⟨rfl, rfl⟩, fun h => absurd h (by decide)⟩
  have hall : List.Forall₂ Node.SameSettings [webByNumber] [webByText] := .cons hsame .nil
  have hnames : List.Forall₂ Node.SameNames [webByNumber] [webByText] :=
    .cons hsame.toSameNames .nil
  have hkey : "region" ∉ generatedKeys := by decide
  have hspares : (Request.setProperty "node-1" "region" (.text "us-west-2")).SparesPreviews := hkey
  exact ⟨hall, hterraform _ _ _ _ hall, hyaml _ _ _ _ hnames, _, result_ofStore _ _,
    hsession _ _ (result_ofStore _ _) _ _ hspares _ (by decide) _ _⟩

end CloudDiagram
