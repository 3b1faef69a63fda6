import CloudDiagram.Proofs.Generation.Registry
import CloudDiagram.Proofs.Manifest.Stream

/-!
# Generated manifests

What the generator gives for components, an empty canvas included.

* `Manifest.text`, `result_generate_yaml`: the text that is generated;
* `textLines_lines`: the lines of a text without a line feed at its end;
* `readDocuments_text`: its documents are a namespace and one manifest for each component.
-/

namespace CloudDiagram.Manifest

open Yaml

/-- **The text of any components.** -/
def text (c : GeneratorConfig) (nodes : List Node) : String :=
  if nodes.isEmpty then skeleton c else stream c nodes

/-! ## Lines without a line feed at the end -/

theorem textLines_of_onOneLine {l : List Char} (h : ∀ c ∈ l, isBreak c = false) (hne : l ≠ []) :
    textLines l = [l] := by
  induction l with
  | nil => exact absurd rfl hne
  | cons c rest ih =>
    obtain ⟨hc, hrest⟩ := List.forall_mem_cons.1 h
    by_cases hnil : rest = []
    · subst hnil
      simp [textLines, hc]
    · simp [textLines, hc, ih hrest hnil]

theorem textLines_lines {ls : List String} (h : ∀ l ∈ ls, OnOneLine l)
    (hlast : ∀ l ∈ ls.getLast?, l.toList ≠ []) : textLines (lines ls).toList = ls.map String.toList := by
  induction ls with
  | nil => rfl
  | cons l ls ih =>
    obtain ⟨hl, hls⟩ := List.forall_mem_cons.1 h
    cases ls with
    | nil =>
      have hne := hlast l (by simp)
      simpa [lines] using textLines_of_onOneLine hl hne
    | cons l' ls =>
      have hrest := ih hls (by simpa using hlast)
      rw [lines] at hrest
      rw [lines, String.intercalate_cons_cons, String.toList_append, String.toList_append,
        List.append_assoc, List.map_cons, ← hrest]
      exact textLines_append hl _

/-! ## The empty canvas -/

/-- The lines of the text of an empty canvas. -/
def skeletonLines (c : GeneratorConfig) : List String :=
  ["# Kubernetes Configuration",
    "# Add components to the canvas to generate YAML manifests",
    ""] ++ namespaceLines c

theorem says_skeletonLines (c : GeneratorConfig) : Says (skeletonLines c) (namespaceEntries c) :=
  .nothing (.fixed rfl rfl) <|
    .nothing (.fixed rfl rfl) <|
    .nothing (.fixed rfl rfl) (says_namespaceLines c)

theorem textLines_skeleton (c : GeneratorConfig) :
    textLines (skeleton c).toList = (skeletonLines c).map String.toList := by
  have hlast : ∀ l ∈ (skeletonLines c).getLast?, l.toList ≠ [] := by
    intro l hl
    have hl' : some ("    managed-by: " ++ dnsLabel c.namespaceName) = some l := hl
    obtain rfl := Option.some.inj hl'
    simp
  exact textLines_lines (says_skeletonLines c).onOneLine hlast

theorem documents_skeleton (c : GeneratorConfig) :
    documents (skeleton c) = [(skeletonLines c).map String.toList] := by
  have hseparator := (says_skeletonLines c).separator_notMem
  have hsplit : ([separator].intercalate [(skeletonLines c).map String.toList]).splitOn separator =
      [(skeletonLines c).map String.toList] :=
    List.splitOn_intercalate separator (List.forall_mem_singleton.2 hseparator)
      (List.cons_ne_nil _ _)
  rw [List.intercalate_singleton] at hsplit
  rw [documents, textLines_skeleton, hsplit]

/-! ## The generated text -/

theorem text_ne_empty (c : GeneratorConfig) (nodes : List Node) : text c nodes ≠ "" := by
  intro h
  have hlength : (textLines (text c nodes).toList).length = 0 := by rw [h]; rfl
  unfold text at hlength
  split at hlength
  · rw [textLines_skeleton, List.length_map] at hlength
    cases hlength
  · rw [length_textLines_stream] at hlength
    omega

theorem answer_emitter (context : EmitContext) (nodes : List Node) :
    emitter.answer context nodes = text context.config nodes := by
  have hempty : (text context.config nodes).isEmpty = false := by
    simpa using text_ne_empty context.config nodes
  have hanswer : emitter.answer context nodes =
      if (text context.config nodes).isEmpty then noComponents else text context.config nodes := rfl
  rw [hanswer, hempty]
  rfl

theorem result_generate_yaml (config : GeneratorConfig) (nodes : List Node) (now : Instant) :
    ((Generator.ofConfig config).generate nodes Format.yaml.name now).result =
      text config nodes := by
  rw [Generator.result_generate, Generator.lookup_ofConfig, Format.ofText_name]
  exact answer_emitter ⟨config, now⟩ nodes

/-- **The documents of any components**: a namespace, and one manifest for each component. -/
theorem readDocuments_text (c : GeneratorConfig) (nodes : List Node) :
    (documents (text c nodes)).map readDocument =
      some (namespaceTree c) :: (numbered nodes).map fun (n, i) => some (manifestTree c n i) := by
  cases nodes with
  | nil =>
    have htext : text c [] = skeleton c := if_pos rfl
    have hread := (says_skeletonLines c).readDocument (nest_namespaceEntries c)
    rw [htext, documents_skeleton, List.map_singleton, hread]
    rfl
  | cons n nodes =>
    have htext : text c (n :: nodes) = stream c (n :: nodes) := if_neg Bool.false_ne_true
    rw [htext, documents_stream, List.map_map]
    exact readDocument_streamLines c (n :: nodes)

end CloudDiagram.Manifest
