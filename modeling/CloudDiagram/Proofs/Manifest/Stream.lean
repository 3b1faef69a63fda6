import CloudDiagram.Proofs.Manifest.Document
import Mathlib.Algebra.GroupWithZero.Nat

/-!
# The documents of a stream

* `textLines_intercalate`, `documents_intercalate`: the lines and the documents of a stream;
* `Manifest.manifestLength`: how many lines a manifest has;
* `Manifest.appPaths`: where a deployment names its application;
* **`manifests_of_emit`**: what is read from the stream of some components, whatever the texts in the
  diagram and the configuration.
-/

namespace CloudDiagram.Manifest

open Yaml

/-! ## Streams -/

theorem toList_closedLines (ls : List String) :
    (closedLines ls).toList = ls.flatMap fun l => l.toList ++ ['\n'] := by
  rw [closedLines, String.toList_join, List.flatMap_map]
  exact List.flatMap_congr fun l _ => String.toList_append

theorem textLines_closedLines {ls : List String} (h : ∀ l ∈ ls, OnOneLine l) (rest : List Char) :
    textLines ((closedLines ls).toList ++ rest) = ls.map String.toList ++ textLines rest := by
  rw [toList_closedLines]
  induction ls with
  | nil => rfl
  | cons l ls ih =>
    obtain ⟨hl, hls⟩ := List.forall_mem_cons.1 h
    rw [List.flatMap_cons, List.append_assoc, List.append_assoc, List.singleton_append,
      textLines_append hl, ih hls, List.map_cons, List.cons_append]

variable {docs : List (List String)}

theorem textLines_intercalate (h : ∀ ls ∈ docs, ∀ l ∈ ls, OnOneLine l) :
    textLines (String.intercalate "---\n" (docs.map closedLines)).toList =
      [separator].intercalate (docs.map (·.map String.toList)) := by
  induction docs with
  | nil => rfl
  | cons ls rest ih =>
    obtain ⟨hls, hrest⟩ := List.forall_mem_cons.1 h
    cases rest with
    | nil =>
      -- no separator stands behind the last document
      have hlines := textLines_closedLines hls []
      simp only [List.append_nil] at hlines
      simpa only [List.map_cons, List.map_nil, String.intercalate_singleton,
        List.intercalate_singleton, textLines, List.append_nil] using hlines
    | cons ls' rest =>
      have hseparator (text : List Char) :
          textLines ("---\n".toList ++ text) = separator :: textLines text := rfl
      have hlist := ih hrest
      simp only [List.map_cons] at hlist ⊢
      rw [String.intercalate_cons_cons, String.toList_append, String.toList_append,
        List.append_assoc, textLines_closedLines hls, hseparator, hlist, List.intercalate_cons_cons,
        List.append_assoc, List.singleton_append]

theorem documents_intercalate (hne : docs ≠ []) (h : ∀ ls ∈ docs, ∃ es, Says ls es) :
    documents (String.intercalate "---\n" (docs.map closedLines)) =
      docs.map (·.map String.toList) := by
  rw [documents, textLines_intercalate fun ls hls => (h ls hls).elim fun _ hes => hes.onOneLine]
  refine List.splitOn_intercalate separator (List.forall_mem_map.2 fun ls hls => ?_) fun hnil => ?_
  · obtain ⟨es, hes⟩ := h ls hls
    exact hes.separator_notMem
  · exact hne (List.map_eq_nil_iff.1 hnil)

theorem length_intercalate_singleton {α : Type} (x : α) (xs : List α) (xss : List (List α)) :
    ([x].intercalate (xs :: xss)).length = xs.length + (xss.map fun ys => 1 + ys.length).sum := by
  induction xss generalizing xs with
  | nil => rw [List.intercalate_singleton]; rfl
  | cons ys xss ih =>
    rw [List.intercalate_cons_cons, List.length_append, List.length_append, ih, List.map_cons,
      List.sum_cons, List.length_singleton]
    omega

/-! ## The stream of components -/

/-- The lines of the documents of some components. -/
def streamLines (c : GeneratorConfig) (nodes : List Node) : List (List String) :=
  openingLines c :: (numbered nodes).map fun (n, i) => manifestLines c n i

theorem says_streamLines (c : GeneratorConfig) (nodes : List Node) :
    ∀ ls ∈ streamLines c nodes, ∃ es, Says ls es := by
  refine List.forall_mem_cons.2 ⟨⟨_, says_openingLines c⟩, List.forall_mem_map.2 fun item _ => ?_⟩
  exact ⟨_, says_manifestLines c item.1 item.2⟩

theorem readDocument_streamLines (c : GeneratorConfig) (nodes : List Node) :
    (streamLines c nodes).map (fun ls => readDocument (ls.map String.toList)) =
      some (namespaceTree c) :: (numbered nodes).map fun (n, i) => some (manifestTree c n i) := by
  have hopening := (says_openingLines c).readDocument (nest_namespaceEntries c)
  have hmanifest (n : Node) (i : Nat) :=
    (says_manifestLines c n i).readDocument (nest_manifestEntries c n i)
  simp only [streamLines, List.map_cons, List.map_map, Function.comp_def, hopening, hmanifest]

/-- **How many lines a manifest has.** -/
def manifestLength : Kind → Nat
  | .server => 30
  | _ => 11

theorem length_manifestLines (c : GeneratorConfig) (n : Node) (index : Nat) :
    (manifestLines c n index).length = manifestLength n.kind := by
  unfold manifestLines
  split
  · rename_i hkind
    rw [hkind]
    rfl
  · simp only [manifestLength]
    rfl

theorem manifestLength_pos (k : Kind) : 0 < manifestLength k := by
  unfold manifestLength
  split <;> decide

theorem map_numbered {β : Type} (f : Node → β) (nodes : List Node) :
    (numbered nodes).map (fun item => f item.1) = nodes.map f := by
  have hfst : (numbered nodes).map Prod.fst = nodes := List.zipIdx_map_fst 1 nodes
  conv_rhs => rw [← hfst, List.map_map]
  rfl

/-- **The number of lines depends on the kinds only.** -/
theorem length_textLines_stream (c : GeneratorConfig) (nodes : List Node) :
    (textLines (stream c nodes).toList).length =
      9 + (nodes.map fun n => 1 + manifestLength n.kind).sum := by
  have hlines := textLines_intercalate fun ls hls =>
    (says_streamLines c nodes ls hls).elim fun _ hes => hes.onOneLine
  rw [stream, ← streamLines, hlines, streamLines, List.map_cons, length_intercalate_singleton,
    ← map_numbered fun n => 1 + manifestLength n.kind]
  simp only [List.map_map, Function.comp_def, List.length_map, length_manifestLines]
  rfl

theorem documents_stream (c : GeneratorConfig) (nodes : List Node) :
    documents (stream c nodes) = (streamLines c nodes).map (·.map String.toList) :=
  documents_intercalate (List.cons_ne_nil _ _) (says_streamLines c nodes)

theorem ne_nil_of_mem_documents {c : GeneratorConfig} {nodes : List Node} :
    ∀ doc ∈ documents (stream c nodes), doc ≠ [] := by
  rw [documents_stream]
  refine List.forall_mem_map.2 fun ls hls => mt List.map_eq_nil_iff.1 ?_
  revert ls
  refine List.forall_mem_cons.2 ⟨List.cons_ne_nil _ _, List.forall_mem_map.2 fun item _ => ?_⟩
  refine List.ne_nil_of_length_pos ?_
  rw [length_manifestLines]
  exact manifestLength_pos item.1.kind

/-! ## Manifests and their components -/

/-- Where a deployment names its application. -/
def appPaths : List (List Step) := [
  [.key "metadata", .key "labels", .key "app"],
  [.key "spec", .key "selector", .key "matchLabels", .key "app"],
  [.key "spec", .key "template", .key "metadata", .key "labels", .key "app"],
  [.key "spec", .key "template", .key "spec", .key "containers", .item 0, .key "name"]]

/-- **The value is the manifest of a component**: a deployment of a server under its slug, else a
configuration map with its kind and its name. -/
def Describes (t : Tree) (n : Node) (index : Nat) : Prop :=
  if n.kind = .server then
    t.at? [.key "kind"] = some (.string "Deployment") ∧
      ∀ path ∈ appPaths, t.at? path = some (.string (n.slug (objectName n index)))
  else
    t.at? [.key "kind"] = some (.string "ConfigMap") ∧
      t.at? [.key "data", .key "component-type"] = some (.string n.kind.text) ∧
      t.at? [.key "data", .key "component-name"] = some (.string n.displayName)

theorem describes_manifestTree (c : GeneratorConfig) (n : Node) (index : Nat) :
    Describes (manifestTree c n index) n index := by
  unfold Describes
  split
  · rename_i hkind
    have htree : manifestTree c n index = deploymentTree c n index := by
      simp only [manifestTree, hkind]
    have hword : Scalar.plain "Deployment" = .string "Deployment" := by decide
    rw [htree, ← hword]
    refine ⟨rfl, ?_⟩
    simp only [appPaths, List.forall_mem_cons, List.not_mem_nil, false_implies, implies_true,
      and_true]
    exact ⟨rfl, rfl, rfl, rfl⟩
  · have htree : manifestTree c n index = configMapTree c n index := by
      simp only [manifestTree]
    have hword : Scalar.plain "ConfigMap" = .string "ConfigMap" := by decide
    rw [htree, ← hword]
    exact ⟨rfl, rfl, rfl⟩

/-- **What is read from the stream of components is what they are**, whatever texts stand in the
configuration and the diagram. There is a document for the namespace and one for each component, in
order, and none is empty; each has the keys and scalars of its tree and no others, and describes its
component; and the number of lines depends on the kinds of the components only. -/
theorem manifests_of_emit (context : EmitContext) (nodes : List Node) :
    ∃ text, (emitter.emit context nodes).result = some text ∧
      (∀ doc ∈ documents text, doc ≠ []) ∧
      (documents text).map readDocument = some (namespaceTree context.config) ::
        (numbered nodes).map (fun (n, i) => some (manifestTree context.config n i)) ∧
      (∀ item ∈ numbered nodes,
        Describes (manifestTree context.config item.1 item.2) item.1 item.2) ∧
      (textLines text.toList).length = 9 + (nodes.map fun n => 1 + manifestLength n.kind).sum := by
  refine ⟨stream context.config nodes, rfl, ne_nil_of_mem_documents, ?_,
    fun item _ => describes_manifestTree context.config item.1 item.2,
    length_textLines_stream context.config nodes⟩
  rw [documents_stream, List.map_map]
  exact readDocument_streamLines context.config nodes

end CloudDiagram.Manifest
