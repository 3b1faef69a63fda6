import CloudDiagram.Proofs.Manifest.Generated
import Mathlib.Data.List.Forall2

/-!
# What generation reads

* `Node.SameNames`: two components of one kind, name and label;
* `Node.SameSettings`: two servers or two databases with the same resolved properties;
* `numbered_congr`: lists of related components, numbered;
* **`document_yaml_congr`**: manifests read the kinds, names and labels of the components;
* **`document_terraform_congr`**: resource files read the resolved properties beside these.

Ids, places, other properties and the time are not read by either.
-/

namespace CloudDiagram

/-- **The same kind, name and label.** -/
structure Node.SameNames (m n : Node) : Prop where
  kind_eq : m.kind = n.kind
  name_eq : m.name = n.name
  label_eq : m.label = n.label

/-- **The same settings too**, as far as a resource of the kind has any: the type and the disk of a
server, the engine, the class and the standby of a database, each with its default where it is not
given. -/
structure Node.SameSettings (m n : Node) : Prop extends m.SameNames n where
  server : m.kind = .server →
    instanceType.resolveText m.properties = instanceType.resolveText n.properties ∧
      (storageSize.resolveWord m.properties).result = (storageSize.resolveWord n.properties).result
  database : m.kind = .database →
    engine.resolveText m.properties = engine.resolveText n.properties ∧
      instanceClass.resolveText m.properties = instanceClass.resolveText n.properties ∧
      (multiZone.resolveBool m.properties).result = (multiZone.resolveBool n.properties).result

namespace Node.SameNames

variable {m n : Node}

theorem displayName_eq (h : m.SameNames n) : m.displayName = n.displayName := by
  unfold Node.displayName
  rw [h.name_eq, h.label_eq]

theorem slug_eq (h : m.SameNames n) (fallback : String) : m.slug fallback = n.slug fallback := by
  unfold Node.slug
  rw [h.name_eq, h.label_eq]

end Node.SameNames

/-! ## Lists of components -/

variable {R : Node → Node → Prop} {nodes nodes' : List Node}

/-- **Related components have the same numbers**, and so the same texts if these are made of what is
related. -/
theorem numbered_congr {β : Type} {f : Node × Nat → β} (h : List.Forall₂ R nodes nodes')
    (hf : ∀ m n i, R m n → f (m, i) = f (n, i)) :
    (numbered nodes).map f = (numbered nodes').map f := by
  unfold numbered
  generalize 1 = first
  induction h generalizing first with
  | nil => rfl
  | cons hfirst _ ih =>
    rw [List.zipIdx_cons, List.zipIdx_cons, List.map_cons, List.map_cons, hf _ _ _ hfirst, ih]

theorem isEmpty_congr (h : List.Forall₂ R nodes nodes') : nodes.isEmpty = nodes'.isEmpty := by
  cases h <;> rfl

theorem any_kind_congr (h : List.Forall₂ Node.SameNames nodes nodes') (k : Kind) :
    nodes.any (fun n => n.kind == k) = nodes'.any (fun n => n.kind == k) := by
  induction h with
  | nil => rfl
  | cons hfirst _ ih => rw [List.any_cons, List.any_cons, hfirst.kind_eq, ih]

/-! ## Manifests -/

namespace Manifest

variable {m n : Node}

theorem objectName_congr (h : m.SameNames n) (index : Nat) : objectName m index = objectName n index := by
  unfold objectName
  rw [h.kind_eq]

theorem manifestLines_congr (h : m.SameNames n) (c : GeneratorConfig) (index : Nat) :
    manifestLines c m index = manifestLines c n index := by
  unfold manifestLines deploymentLines configMapLines
  rw [h.kind_eq, h.displayName_eq, objectName_congr h, h.slug_eq]

theorem streamLines_congr (h : List.Forall₂ Node.SameNames nodes nodes') (c : GeneratorConfig) :
    streamLines c nodes = streamLines c nodes' :=
  congrArg (openingLines c :: ·)
    (numbered_congr h fun _ _ index hmn => manifestLines_congr hmn c index)

theorem text_congr (h : List.Forall₂ Node.SameNames nodes nodes') (c : GeneratorConfig) :
    text c nodes = text c nodes' := by
  have hstream (nodes : List Node) :
      stream c nodes = String.intercalate "---\n" ((streamLines c nodes).map closedLines) := rfl
  unfold text
  rw [isEmpty_congr h, hstream, hstream, streamLines_congr h]

end Manifest

/-- **Manifests depend on the kinds, names and labels alone**, at whatever time they are made. -/
theorem document_yaml_congr (h : List.Forall₂ Node.SameNames nodes nodes') (c : GeneratorConfig)
    (now now' : Instant) :
    ((Generator.ofConfig c).document nodes .yaml now).result =
      ((Generator.ofConfig c).document nodes' .yaml now').result := by
  have hdocument (nodes : List Node) (now : Instant) :
      ((Generator.ofConfig c).document nodes .yaml now).result = ⟨.yaml, Manifest.text c nodes⟩ := by
    rw [Generator.document, Noted.result_bind, Noted.result_pure, Manifest.result_generate_yaml]
  rw [hdocument, hdocument, Manifest.text_congr h]

/-! ## Resource files -/

namespace Terraform

variable {m n : Node}

theorem serverBlock_congr (h : m.SameSettings n) (hkind : m.kind = .server)
    (c : GeneratorConfig) (identifier : String) :
    (serverBlock c m identifier).result = (serverBlock c n identifier).result := by
  obtain ⟨htype, hsize⟩ := h.server hkind
  simp only [serverBlock, Noted.result_bind, Noted.result_pure, htype, hsize, h.displayName_eq]

theorem databaseBlock_congr (h : m.SameSettings n) (hkind : m.kind = .database)
    (c : GeneratorConfig) (identifier : String) :
    (databaseBlock c m identifier).result = (databaseBlock c n identifier).result := by
  obtain ⟨hengine, hclass, hstandby⟩ := h.database hkind
  simp only [databaseBlock, Noted.result_bind, Noted.result_pure, hengine, hclass, hstandby,
    h.displayName_eq, h.slug_eq]

theorem resource_congr (h : m.SameSettings n) (c : GeneratorConfig) (index : Nat) :
    (resource c m index).result = (resource c n index).result := by
  unfold resource
  rw [← h.kind_eq]
  split
  · rename_i hkind
    exact serverBlock_congr h hkind c _
  · rename_i hkind
    exact databaseBlock_congr h hkind c _
  · unfold commentBlock
    rw [h.kind_eq, h.displayName_eq]

theorem result_renderAll (render : Node → Nat → Noted String) (items : List (Node × Nat)) :
    (renderAll render items).result = items.map fun item => (render item.1 item.2).result := by
  induction items with
  | nil => rfl
  | cons item rest ih => rw [List.map_cons, ← ih]; rfl

theorem file_congr (h : List.Forall₂ Node.SameSettings nodes nodes') (c : GeneratorConfig) :
    (file c nodes).result = (file c nodes').result := by
  have hnames : List.Forall₂ Node.SameNames nodes nodes' := h.imp fun _ _ hmn => hmn.toSameNames
  have hblocks := numbered_congr (f := fun item => (resource c item.1 item.2).result) h
    fun m n i hmn => resource_congr hmn c i
  simp only [file, Noted.result_bind, Noted.result_pure, result_renderAll, hblocks, preamble,
    any_kind_congr hnames]

/-- The file of any components, that of an empty canvas included. -/
def text (c : GeneratorConfig) (nodes : List Node) : String :=
  if nodes.isEmpty then skeleton c else (file c nodes).result

theorem answer_emitter (context : EmitContext) (nodes : List Node) :
    emitter.answer context nodes =
      if (text context.config nodes).isEmpty then noComponents else text context.config nodes := rfl

theorem text_congr (h : List.Forall₂ Node.SameSettings nodes nodes') (c : GeneratorConfig) :
    text c nodes = text c nodes' := by
  unfold text
  rw [isEmpty_congr h, file_congr h]

end Terraform

/-- **Resource files depend on the kinds, names, labels and settings alone**, at whatever time they are
made. -/
theorem document_terraform_congr (h : List.Forall₂ Node.SameSettings nodes nodes')
    (c : GeneratorConfig) (now now' : Instant) :
    ((Generator.ofConfig c).document nodes .terraform now).result =
      ((Generator.ofConfig c).document nodes' .terraform now').result := by
  have hdocument (nodes : List Node) (now : Instant) :
      ((Generator.ofConfig c).document nodes .terraform now).result =
        ⟨.terraform, Terraform.emitter.answer ⟨c, now⟩ nodes⟩ := by
    rw [Generator.document, Noted.result_bind, Noted.result_pure, Generator.result_generate,
      Generator.lookup_ofConfig, Format.ofText_name]
    rfl
  rw [hdocument, hdocument, Terraform.answer_emitter, Terraform.answer_emitter,
    Terraform.text_congr h]

end CloudDiagram
