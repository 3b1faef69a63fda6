import CloudDiagram.Generation.Emitter
import CloudDiagram.Generation.Format
import CloudDiagram.Generation.Naming

/-!
# Cluster manifests

A stream of YAML documents: a namespace, then one manifest for each component.

* `Manifest.skeleton`: the stream of an empty canvas;
* `Manifest.manifestLines`: the document of a component;
* `Manifest.emitter`: the whole stream.
-/

namespace CloudDiagram.Manifest

/-- The lines of the namespace. -/
def namespaceLines (c : GeneratorConfig) : List String :=
  ["apiVersion: v1",
    "kind: Namespace",
    "metadata:",
    "  name: " ++ dnsLabel c.namespaceName,
    "  labels:",
    "    managed-by: " ++ dnsLabel c.namespaceName]

/-- Lines that all end with a line feed. -/
def closedLines (ls : List String) : String := String.join (ls.map (· ++ "\n"))

/-- **The stream of an empty canvas.** -/
def skeleton (c : GeneratorConfig) : String :=
  lines (["# Kubernetes Configuration",
    "# Add components to the canvas to generate YAML manifests",
    ""] ++ namespaceLines c)

/-- The name of the object of a component. -/
def objectName (n : Node) (index : Nat) : String :=
  dnsLabel (n.kind.text ++ "-" ++ toString index)

/-- The lines of a deployment. -/
def deploymentLines (c : GeneratorConfig) (n : Node) (index : Nat) : List String :=
  let app := yamlScalar (n.slug (objectName n index))
  ["apiVersion: apps/v1",
    "kind: Deployment",
    "metadata:",
    "  name: " ++ objectName n index,
    "  namespace: " ++ dnsLabel c.namespaceName,
    "  labels:",
    "    app: " ++ app,
    "    managed-by: " ++ dnsLabel c.namespaceName,
    "spec:",
    "  replicas: 1",
    "  selector:",
    "    matchLabels:",
    "      app: " ++ app,
    "  template:",
    "    metadata:",
    "      labels:",
    "        app: " ++ app,
    "    spec:",
    "      containers:",
    "      - name: " ++ app,
    "        image: nginx:latest",
    "        ports:",
    "        - containerPort: 80",
    "        resources:",
    "          requests:",
    "            memory: \"64Mi\"",
    "            cpu: \"250m\"",
    "          limits:",
    "            memory: \"128Mi\"",
    "            cpu: \"500m\""]

/-- The lines of a configuration map. -/
def configMapLines (c : GeneratorConfig) (n : Node) (index : Nat) : List String :=
  ["# " ++ commentText n.kind.text ++ " configuration",
    "# Resource: " ++ commentText n.displayName,
    "# Type: " ++ commentText n.kind.text,
    "apiVersion: v1",
    "kind: ConfigMap",
    "metadata:",
    "  name: " ++ objectName n index ++ "-config",
    "  namespace: " ++ dnsLabel c.namespaceName,
    "data:",
    "  component-type: " ++ yamlScalar n.kind.text,
    "  component-name: " ++ yamlScalar n.displayName]

/-- **The lines of the manifest of a component**, by its number. -/
def manifestLines (c : GeneratorConfig) (n : Node) (index : Nat) : List String :=
  match n.kind with
  | .server => deploymentLines c n index
  | _ => configMapLines c n index

/-- The lines of the first document. -/
def openingLines (c : GeneratorConfig) : List String :=
  ["# Generated Kubernetes Configuration",
    "# Infrastructure as Code for " ++ commentText c.projectName,
    ""] ++ namespaceLines c

/-- **The stream of components.** -/
def stream (c : GeneratorConfig) (nodes : List Node) : String :=
  String.intercalate "---\n"
    ((openingLines c :: (numbered nodes).map fun (n, i) => manifestLines c n i).map closedLines)

/-- The emitter of manifests. -/
def emitter : Emitter where
  name := Format.yaml.name
  skeleton context := skeleton context.config
  emit context nodes := pure (some (stream context.config nodes))

end CloudDiagram.Manifest
