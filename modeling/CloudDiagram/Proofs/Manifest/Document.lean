import CloudDiagram.Generation.Manifest
import CloudDiagram.Proofs.Manifest.Label
import CloudDiagram.Proofs.Yaml.Block

/-!
# The documents of manifests

* `readScalar_of_isLabel`: a label is read as it is;
* `saysLabel`, `saysText`, `saysItem`: lines with a label or with any text at their ends;
* `Manifest.namespaceTree`, `Manifest.manifestTree`: the values of the documents;
* `readDocument_namespaceLines`, `readDocument_manifestLines`: these are what is read, whatever the
  texts in the diagram and the configuration.
-/

namespace CloudDiagram.Manifest

open Yaml

/-! ## Labels as scalars -/

theorem isPlainChar_of_isLabelChar {c : Char} (h : isLabelChar c = true ∨ c = '-') :
    isPlainChar c = true := by
  obtain h | rfl := h
  · have halphanumeric : Text.isAlphanumeric c = true := by
      rw [isLabelChar_iff] at h
      rw [Text.isAlphanumeric_iff]
      omega
    simp only [isPlainChar, halphanumeric, Bool.true_or]
  · rfl

theorem readScalar_of_isLabel {s : String} (h : IsLabel s.toList) :
    readScalar s.toList = some (.plain s) := by
  have hchars : ∀ c ∈ s.toList, isPlainChar c = true := fun c hc =>
    isPlainChar_of_isLabelChar (h.chars c hc)
  have hne : ∀ {c d : Char}, isLabelChar c = true → isLabelChar d = false → c ≠ d := by
    rintro c d hc hd rfl
    rw [hc] at hd
    cases hd
  have hspace : ∀ {c}, isLabelChar c = true → isSpace c = false := fun hc => by
    simp only [isSpace, beq_false_of_ne (hne hc (show isLabelChar ' ' = false from rfl)),
      beq_false_of_ne (hne hc (show isLabelChar '\t' = false from rfl)), Bool.or_self]
  refine readScalar_of_isPlainChar hchars ?_ fun c hc => hspace (h.last c hc)
  obtain ⟨c, rest, hs⟩ := List.exists_cons_of_ne_nil h.nonempty
  have hfirst : isLabelChar c = true := h.first c (by rw [hs]; rfl)
  rw [hs]
  exact startsPlain_of_isPlainChar rest (isPlainChar_of_isLabelChar (.inl hfirst)) (hne hfirst rfl)
    (hspace hfirst)

theorem onOneLine_of_isLabel {s : String} (h : IsLabel s.toList) : OnOneLine s :=
  .of_isPlainChar fun c hc => isPlainChar_of_isLabelChar (h.chars c hc)

/-! ## Lines of manifests -/

section

variable {l : List Char} {column : Nat} {key : String}

theorem saysLabel {v : String} (hv : IsLabel v.toList) (hbreak : l.all (!isBreak ·) = true)
    (h : ∀ text, readLine 0 (l ++ text) =
      (readValue (' ' :: text)).map fun s => [(column, .key key s)]) :
    LineSays (String.ofList l ++ v) [(column, .key key (some (.plain v)))] :=
  .scalar (fun s => [(column, .key key s)]) hbreak h (onOneLine_of_isLabel hv)
    (readScalar_of_isLabel hv)

theorem saysText (v : String) (hbreak : l.all (!isBreak ·) = true)
    (h : ∀ text, readLine 0 (l ++ text) =
      (readValue (' ' :: text)).map fun s => [(column, .key key s)]) :
    LineSays (String.ofList l ++ yamlScalar v) [(column, .key key (some (.string v)))] :=
  .scalar (fun s => [(column, .key key s)]) hbreak h (onOneLine_yamlScalar v)
    (readScalar_yamlScalar v)

theorem saysItem (v : String) {itemColumn : Nat} (hbreak : l.all (!isBreak ·) = true)
    (h : ∀ text, readLine 0 (l ++ text) =
      (readValue (' ' :: text)).map fun s => [(itemColumn, .item), (column, .key key s)]) :
    LineSays (String.ofList l ++ yamlScalar v)
      [(itemColumn, .item), (column, .key key (some (.string v)))] :=
  .scalar (fun s => [(itemColumn, .item), (column, .key key s)]) hbreak h (onOneLine_yamlScalar v)
    (readScalar_yamlScalar v)

end

/-- A scalar without quotes. -/
def plain (text : String) : Tree := .scalar (.plain text)

/-- A string. -/
def string (text : String) : Tree := .scalar (.string text)

/-! ## The namespace -/

/-- What the lines of the namespace say. -/
def namespaceEntries (c : GeneratorConfig) : List (Nat × Entry) :=
  let name := Scalar.plain (dnsLabel c.namespaceName)
  [(0, .key "apiVersion" (some (.plain "v1"))),
    (0, .key "kind" (some (.plain "Namespace"))),
    (0, .key "metadata" none),
    (2, .key "name" (some name)),
    (2, .key "labels" none),
    (4, .key "managed-by" (some name))]

/-- **The value of the namespace.** -/
def namespaceTree (c : GeneratorConfig) : Tree :=
  let name := plain (dnsLabel c.namespaceName)
  .mapping [
    ("apiVersion", plain "v1"),
    ("kind", plain "Namespace"),
    ("metadata", .mapping [("name", name), ("labels", .mapping [("managed-by", name)])])]

theorem says_namespaceLines (c : GeneratorConfig) :
    Says (namespaceLines c) (namespaceEntries c) := by
  have hname := isLabel_dnsLabel c.namespaceName
  exact .entry (.fixed rfl rfl) <|
    .entry (.fixed rfl rfl) <|
    .entry (.fixed rfl rfl) <|
    .entry (saysLabel hname rfl fun _ => rfl) <|
    .entry (.fixed rfl rfl) <|
    .entry (saysLabel hname rfl fun _ => rfl) .nil

theorem says_openingLines (c : GeneratorConfig) : Says (openingLines c) (namespaceEntries c) := by
  have hproject : OnOneLine ("# Infrastructure as Code for " ++ commentText c.projectName) :=
    OnOneLine.append (.fixed rfl) (onOneLine_commentText c.projectName)
  exact .nothing (.fixed rfl rfl) <|
    .nothing (.comment hproject) <|
    .nothing (.fixed rfl rfl) (says_namespaceLines c)

theorem nest_namespaceEntries (c : GeneratorConfig) :
    (nest (namespaceEntries c)).bind block = some (namespaceTree c) := by
  simp [namespaceEntries, namespaceTree, nest, Entry.part?, Part.nestsIn, block, plain]

/-! ## Deployments -/

/-- What the lines of a deployment say. -/
def deploymentEntries (c : GeneratorConfig) (n : Node) (index : Nat) : List (Nat × Entry) :=
  let name := objectName n index
  let app := Scalar.string (n.slug name)
  let owner := Scalar.plain (dnsLabel c.namespaceName)
  [(0, .key "apiVersion" (some (.plain "apps/v1"))),
    (0, .key "kind" (some (.plain "Deployment"))),
    (0, .key "metadata" none),
    (2, .key "name" (some (.plain name))),
    (2, .key "namespace" (some owner)),
    (2, .key "labels" none),
    (4, .key "app" (some app)),
    (4, .key "managed-by" (some owner)),
    (0, .key "spec" none),
    (2, .key "replicas" (some (.plain "1"))),
    (2, .key "selector" none),
    (4, .key "matchLabels" none),
    (6, .key "app" (some app)),
    (2, .key "template" none),
    (4, .key "metadata" none),
    (6, .key "labels" none),
    (8, .key "app" (some app)),
    (4, .key "spec" none),
    (6, .key "containers" none),
    (6, .item),
    (8, .key "name" (some app)),
    (8, .key "image" (some (.plain "nginx:latest"))),
    (8, .key "ports" none),
    (8, .item),
    (10, .key "containerPort" (some (.plain "80"))),
    (8, .key "resources" none),
    (10, .key "requests" none),
    (12, .key "memory" (some (.string "64Mi"))),
    (12, .key "cpu" (some (.string "250m"))),
    (10, .key "limits" none),
    (12, .key "memory" (some (.string "128Mi"))),
    (12, .key "cpu" (some (.string "500m")))]

/-- **The value of a deployment.** -/
def deploymentTree (c : GeneratorConfig) (n : Node) (index : Nat) : Tree :=
  let name := objectName n index
  let app := string (n.slug name)
  let owner := plain (dnsLabel c.namespaceName)
  .mapping [
    ("apiVersion", plain "apps/v1"),
    ("kind", plain "Deployment"),
    ("metadata", .mapping [
      ("name", plain name),
      ("namespace", owner),
      ("labels", .mapping [("app", app), ("managed-by", owner)])]),
    ("spec", .mapping [
      ("replicas", plain "1"),
      ("selector", .mapping [("matchLabels", .mapping [("app", app)])]),
      ("template", .mapping [
        ("metadata", .mapping [("labels", .mapping [("app", app)])]),
        ("spec", .mapping [("containers", .sequence [.mapping [
          ("name", app),
          ("image", plain "nginx:latest"),
          ("ports", .sequence [.mapping [("containerPort", plain "80")]]),
          ("resources", .mapping [
            ("requests", .mapping [("memory", string "64Mi"), ("cpu", string "250m")]),
            ("limits", .mapping [("memory", string "128Mi"), ("cpu", string "500m")])])]])])])])]

theorem says_deploymentLines (c : GeneratorConfig) (n : Node) (index : Nat) :
    Says (deploymentLines c n index) (deploymentEntries c n index) := by
  have howner := isLabel_dnsLabel c.namespaceName
  have hname : IsLabel (objectName n index).toList := isLabel_dnsLabel _
  exact .entry (.fixed rfl rfl) <|
    .entry (.fixed rfl rfl) <|
    .entry (.fixed rfl rfl) <|
    .entry (saysLabel hname rfl fun _ => rfl) <|
    .entry (saysLabel howner rfl fun _ => rfl) <|
    .entry (.fixed rfl rfl) <|
    .entry (saysText _ rfl fun _ => rfl) <|
    .entry (saysLabel howner rfl fun _ => rfl) <|
    .entry (.fixed rfl rfl) <|
    .entry (.fixed rfl rfl) <|
    .entry (.fixed rfl rfl) <|
    .entry (.fixed rfl rfl) <|
    .entry (saysText _ rfl fun _ => rfl) <|
    .entry (.fixed rfl rfl) <|
    .entry (.fixed rfl rfl) <|
    .entry (.fixed rfl rfl) <|
    .entry (saysText _ rfl fun _ => rfl) <|
    .entry (.fixed rfl rfl) <|
    .entry (.fixed rfl rfl) <|
    .entries (saysItem _ rfl fun _ => Option.map_map _ _ _) <|
    .entry (.fixed rfl rfl) <|
    .entry (.fixed rfl rfl) <|
    .entries (.fixed rfl rfl) <|
    .entry (.fixed rfl rfl) <|
    .entry (.fixed rfl rfl) <|
    .entry (.fixed rfl rfl) <|
    .entry (.fixed rfl rfl) <|
    .entry (.fixed rfl rfl) <|
    .entry (.fixed rfl rfl) <|
    .entry (.fixed rfl rfl) .nil

theorem nest_deploymentEntries (c : GeneratorConfig) (n : Node) (index : Nat) :
    (nest (deploymentEntries c n index)).bind block = some (deploymentTree c n index) := by
  simp [deploymentEntries, deploymentTree, nest, Entry.part?, Part.nestsIn, block, plain, string]

/-! ## Configuration maps -/

/-- What the lines of a configuration map say. -/
def configMapEntries (c : GeneratorConfig) (n : Node) (index : Nat) : List (Nat × Entry) :=
  [(0, .key "apiVersion" (some (.plain "v1"))),
    (0, .key "kind" (some (.plain "ConfigMap"))),
    (0, .key "metadata" none),
    (2, .key "name" (some (.plain (objectName n index ++ "-config")))),
    (2, .key "namespace" (some (.plain (dnsLabel c.namespaceName)))),
    (0, .key "data" none),
    (2, .key "component-type" (some (.string n.kind.text))),
    (2, .key "component-name" (some (.string n.displayName)))]

/-- **The value of a configuration map.** -/
def configMapTree (c : GeneratorConfig) (n : Node) (index : Nat) : Tree :=
  .mapping [
    ("apiVersion", plain "v1"),
    ("kind", plain "ConfigMap"),
    ("metadata", .mapping [
      ("name", plain (objectName n index ++ "-config")),
      ("namespace", plain (dnsLabel c.namespaceName))]),
    ("data", .mapping [
      ("component-type", string n.kind.text),
      ("component-name", string n.displayName)])]

theorem says_configMapLines (c : GeneratorConfig) (n : Node) (index : Nat) :
    Says (configMapLines c n index) (configMapEntries c n index) := by
  have hkind := onOneLine_commentText n.kind.text
  have htitle : OnOneLine ("# " ++ (commentText n.kind.text ++ " configuration")) :=
    OnOneLine.append (.fixed rfl) (hkind.append (.fixed rfl))
  have hresource : OnOneLine ("# Resource: " ++ commentText n.displayName) :=
    OnOneLine.append (.fixed rfl) (onOneLine_commentText n.displayName)
  have htype : OnOneLine ("# Type: " ++ commentText n.kind.text) :=
    OnOneLine.append (.fixed rfl) hkind
  have hname : IsLabel (objectName n index ++ "-config").toList := by
    have hsuffix : IsLabel "config".toList := .fixed rfl
    rw [String.toList_append]
    exact (isLabel_dnsLabel _).append hsuffix
  rw [configMapLines, String.append_assoc, String.append_assoc]
  exact .nothing (.comment htitle) <|
    .nothing (.comment hresource) <|
    .nothing (.comment htype) <|
    .entry (.fixed rfl rfl) <|
    .entry (.fixed rfl rfl) <|
    .entry (.fixed rfl rfl) <|
    .entry (saysLabel hname rfl fun _ => rfl) <|
    .entry (saysLabel (isLabel_dnsLabel c.namespaceName) rfl fun _ => rfl) <|
    .entry (.fixed rfl rfl) <|
    .entry (saysText _ rfl fun _ => rfl) <|
    .entry (saysText _ rfl fun _ => rfl) .nil

theorem nest_configMapEntries (c : GeneratorConfig) (n : Node) (index : Nat) :
    (nest (configMapEntries c n index)).bind block = some (configMapTree c n index) := by
  simp [configMapEntries, configMapTree, nest, Entry.part?, Part.nestsIn, block, plain, string]

/-! ## Manifests -/

/-- What the lines of a manifest say. -/
def manifestEntries (c : GeneratorConfig) (n : Node) (index : Nat) : List (Nat × Entry) :=
  match n.kind with
  | .server => deploymentEntries c n index
  | _ => configMapEntries c n index

/-- **The value of the manifest of a component**, by its number. -/
def manifestTree (c : GeneratorConfig) (n : Node) (index : Nat) : Tree :=
  match n.kind with
  | .server => deploymentTree c n index
  | _ => configMapTree c n index

theorem says_manifestLines (c : GeneratorConfig) (n : Node) (index : Nat) :
    Says (manifestLines c n index) (manifestEntries c n index) := by
  unfold manifestLines
  split
  · rename_i hkind
    simp only [manifestEntries, hkind]
    exact says_deploymentLines c n index
  · simp only [manifestEntries]
    exact says_configMapLines c n index

theorem nest_manifestEntries (c : GeneratorConfig) (n : Node) (index : Nat) :
    (nest (manifestEntries c n index)).bind block = some (manifestTree c n index) := by
  unfold manifestEntries
  split
  · rename_i hkind
    simp only [manifestTree, hkind]
    exact nest_deploymentEntries c n index
  · simp only [manifestTree]
    exact nest_configMapEntries c n index

end CloudDiagram.Manifest
