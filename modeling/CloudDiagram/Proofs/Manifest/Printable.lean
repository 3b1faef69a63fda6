import CloudDiagram.Proofs.Manifest.Generated
import CloudDiagram.Proofs.Yaml.Printable

/-!
# Printable manifests

* `sources`: the texts of a diagram and its configuration that manifests are made of;
* `printableBut_manifestLines`, `printableBut_text`: the lines of manifests, and the generated text;
* **`printable_of_generate`**: the generated text is printable but for unescaped characters of its
  sources;
* `unescaped_stays`: such a character of a name stays in the text.
-/

namespace CloudDiagram.Manifest

open Yaml

/-! ## Lines -/

section

variable {others : Char → Prop} {c : GeneratorConfig} {n : Node}

theorem printableBut_namespaceLines : ∀ l ∈ namespaceLines c, PrintableBut others l := by
  have hlabel : PrintableBut others (dnsLabel c.namespaceName) := .label (isLabel_dnsLabel _)
  simp only [namespaceLines, List.forall_mem_cons, List.not_mem_nil, false_implies, implies_true,
    and_true]
  exact ⟨.fixed rfl, .fixed rfl, .fixed rfl, .append (.fixed rfl) hlabel, .fixed rfl,
    .append (.fixed rfl) hlabel⟩

theorem printableBut_skeletonLines : ∀ l ∈ skeletonLines c, PrintableBut others l :=
  List.forall_mem_cons.2 ⟨.fixed rfl, List.forall_mem_cons.2 ⟨.fixed rfl,
    List.forall_mem_cons.2 ⟨.fixed rfl, printableBut_namespaceLines⟩⟩⟩

theorem printableBut_openingLines (h : UnescapedIn others c.projectName) :
    ∀ l ∈ openingLines c, PrintableBut others l :=
  List.forall_mem_cons.2 ⟨.fixed rfl,
    List.forall_mem_cons.2 ⟨.append (.fixed rfl) (printableBut_commentText h),
    List.forall_mem_cons.2 ⟨.fixed rfl, printableBut_namespaceLines⟩⟩⟩

/-- The unescaped characters of a component's texts are among some characters. -/
structure NodeUnescapedIn (others : Char → Prop) (n : Node) : Prop where
  kind : UnescapedIn others n.kind.text
  name : UnescapedIn others n.name
  label : ∀ label ∈ n.label, UnescapedIn others label

theorem NodeUnescapedIn.displayName (h : NodeUnescapedIn others n) :
    UnescapedIn others n.displayName := by
  have hunnamed : UnescapedIn others "Unnamed" := by
    intro ch hch hraw
    have hall : "Unnamed".toList.all (!isUnescaped ·) = true := rfl
    simpa [hraw] using List.all_eq_true.1 hall ch hch
  unfold Node.displayName
  split
  · exact h.name
  · split
    · rename_i label hlabel
      split
      · exact h.label label hlabel
      · exact hunnamed
    · exact hunnamed

theorem NodeUnescapedIn.slug (h : NodeUnescapedIn others n) {fallback : String}
    (hfallback : PrintableBut others fallback) : UnescapedIn others (n.slug fallback) := by
  intro ch hch hraw
  have hprintable : isPrintable ch = true → others ch := fun hp => by
    rw [isPrintable_eq_false hraw] at hp
    cases hp
  obtain hp | hname | ⟨label, hlabel, hmem⟩ | hmem := mem_slug hch
  · exact hprintable hp
  · exact h.name ch hname hraw
  · exact h.label label hlabel ch hmem hraw
  · exact (hfallback ch hmem).elim hprintable id

theorem printableBut_deploymentLines (h : NodeUnescapedIn others n) (i : Nat) :
    ∀ l ∈ deploymentLines c n i, PrintableBut others l := by
  have howner : PrintableBut others (dnsLabel c.namespaceName) := .label (isLabel_dnsLabel _)
  have hname : PrintableBut others (objectName n i) := .label (isLabel_dnsLabel _)
  have happ : PrintableBut others (yamlScalar (n.slug (objectName n i))) :=
    printableBut_yamlScalar (h.slug hname)
  simp only [deploymentLines, List.forall_mem_cons, List.not_mem_nil, false_implies, implies_true,
    and_true]
  exact ⟨.fixed rfl, .fixed rfl, .fixed rfl, .append (.fixed rfl) hname,
    .append (.fixed rfl) howner, .fixed rfl, .append (.fixed rfl) happ,
    .append (.fixed rfl) howner, .fixed rfl, .fixed rfl, .fixed rfl, .fixed rfl,
    .append (.fixed rfl) happ, .fixed rfl, .fixed rfl, .fixed rfl, .append (.fixed rfl) happ,
    .fixed rfl, .fixed rfl, .append (.fixed rfl) happ, .fixed rfl, .fixed rfl, .fixed rfl,
    .fixed rfl, .fixed rfl, .fixed rfl, .fixed rfl, .fixed rfl, .fixed rfl, .fixed rfl⟩

theorem printableBut_configMapLines (h : NodeUnescapedIn others n) (i : Nat) :
    ∀ l ∈ configMapLines c n i, PrintableBut others l := by
  have howner : PrintableBut others (dnsLabel c.namespaceName) := .label (isLabel_dnsLabel _)
  have hname : PrintableBut others (objectName n i) := .label (isLabel_dnsLabel _)
  have hkind := printableBut_commentText h.kind
  have hshown := printableBut_commentText h.displayName
  simp only [configMapLines, List.forall_mem_cons, List.not_mem_nil, false_implies, implies_true,
    and_true]
  exact ⟨.append (.append (.fixed rfl) hkind) (.fixed rfl), .append (.fixed rfl) hshown,
    .append (.fixed rfl) hkind, .fixed rfl, .fixed rfl, .fixed rfl,
    .append (.append (.fixed rfl) hname) (.fixed rfl), .append (.fixed rfl) howner, .fixed rfl,
    .append (.fixed rfl) (printableBut_yamlScalar h.kind),
    .append (.fixed rfl) (printableBut_yamlScalar h.displayName)⟩

theorem printableBut_manifestLines (h : NodeUnescapedIn others n) (i : Nat) :
    ∀ l ∈ manifestLines c n i, PrintableBut others l := by
  unfold manifestLines
  split
  · exact printableBut_deploymentLines h i
  · exact printableBut_configMapLines h i

end

/-! ## Texts -/

section

variable {others : Char → Prop} {separator : String} {parts : List String}

theorem printableBut_intercalate (hseparator : PrintableBut others separator)
    (h : ∀ s ∈ parts, PrintableBut others s) :
    PrintableBut others (String.intercalate separator parts) := by
  induction parts with
  | nil => exact .fixed rfl
  | cons s rest ih =>
    obtain ⟨hs, hrest⟩ := List.forall_mem_cons.1 h
    cases rest with
    | nil =>
      rw [String.intercalate_singleton]
      exact hs
    | cons s' rest =>
      rw [String.intercalate_cons_cons]
      exact (hs.append hseparator).append (ih hrest)

theorem mem_intercalate {s : String} {ch : Char} (hs : s ∈ parts) (h : ch ∈ s.toList) :
    ch ∈ (String.intercalate separator parts).toList := by
  induction parts with
  | nil => cases hs
  | cons s' rest ih =>
    cases rest with
    | nil =>
      rw [List.mem_singleton.1 hs] at h
      rwa [String.intercalate_singleton]
    | cons s'' rest =>
      rw [String.intercalate_cons_cons, String.toList_append, List.mem_append]
      rcases List.mem_cons.1 hs with rfl | hs
      · exact .inl (by simp [h])
      · exact .inr (ih hs)

theorem printableBut_closedLines {ls : List String} (h : ∀ l ∈ ls, PrintableBut others l) :
    PrintableBut others (closedLines ls) := by
  intro ch hch
  rw [toList_closedLines] at hch
  obtain ⟨l, hl, hch⟩ := List.mem_flatMap.1 hch
  rcases List.mem_append.1 hch with hch | hch
  · exact h l hl ch hch
  · rw [List.mem_singleton.1 hch]
    exact .inl (by decide)

variable {c : GeneratorConfig} {nodes : List Node}

theorem printableBut_skeleton : PrintableBut others (skeleton c) := by
  have hfeed : PrintableBut others "\n" := .fixed (l := ['\n']) rfl
  exact printableBut_intercalate hfeed printableBut_skeletonLines

theorem printableBut_stream (hproject : UnescapedIn others c.projectName)
    (hnodes : ∀ n ∈ nodes, NodeUnescapedIn others n) : PrintableBut others (stream c nodes) := by
  have hseparator : PrintableBut others "---\n" := .fixed (l := ['-', '-', '-', '\n']) rfl
  refine printableBut_intercalate hseparator (List.forall_mem_map.2 fun ls hls => ?_)
  refine printableBut_closedLines ?_
  rcases List.mem_cons.1 hls with rfl | hls
  · exact printableBut_openingLines hproject
  · obtain ⟨item, hitem, rfl⟩ := List.mem_map.1 hls
    have hmem : item.1 ∈ nodes := List.fst_mem_of_mem_zipIdx hitem
    exact printableBut_manifestLines (hnodes item.1 hmem) item.2

/-- **The text of any components** is printable but for unescaped characters of the texts that it is
made of. -/
theorem printableBut_text (hproject : UnescapedIn others c.projectName)
    (hnodes : ∀ n ∈ nodes, NodeUnescapedIn others n) : PrintableBut others (text c nodes) := by
  unfold text
  split
  · exact printableBut_skeleton
  · exact printableBut_stream hproject hnodes

end

/-! ## The generated text -/

/-- **The texts that manifests are made of.** -/
def sources (c : GeneratorConfig) (nodes : List Node) : List String :=
  c.projectName :: nodes.flatMap fun n => n.kind.text :: n.name :: n.label.toList

/-- **The generated text is printable**, that of an empty canvas included, but for characters that
stand in a name, a label, a kind or the name of the project and are left as they are: the delete
character, controls above it that end no line, and the two at the end of the plane that are no
characters. Everything else that is not printable is written as an escape or as a space. -/
theorem printable_of_generate (config : GeneratorConfig) (nodes : List Node) (now : Instant) :
    let text := ((Generator.ofConfig config).generate nodes Format.yaml.name now).result
    (∀ ch ∈ text.toList, isPrintable ch = true ∨
      isUnescaped ch = true ∧ ∃ s ∈ sources config nodes, ch ∈ s.toList) ∧
    ((∀ s ∈ sources config nodes, ∀ ch ∈ s.toList, isUnescaped ch = false) →
      ∀ ch ∈ text.toList, isPrintable ch = true) ∧
    (nodes = [] → ∀ ch ∈ text.toList, isPrintable ch = true) := by
  intro text
  have htext : text = Manifest.text config nodes := result_generate_yaml config nodes now
  clear_value text
  subst htext
  have hbut : PrintableBut (fun ch => isUnescaped ch = true ∧ ∃ s ∈ sources config nodes, ch ∈ s.toList)
      (Manifest.text config nodes) := by
    refine printableBut_text ?_ fun n hn => ?_
    · intro ch hch hraw
      exact ⟨hraw, config.projectName, List.mem_cons_self, hch⟩
    · have hsource : ∀ s ∈ n.kind.text :: n.name :: n.label.toList, s ∈ sources config nodes :=
        fun s hs => List.mem_cons_of_mem _ (List.mem_flatMap.2 ⟨n, hn, hs⟩)
      exact ⟨fun ch hch hraw => ⟨hraw, _, hsource _ (by simp), hch⟩,
        fun ch hch hraw => ⟨hraw, _, hsource _ (by simp), hch⟩,
        fun label hlabel ch hch hraw => ⟨hraw, label, hsource _ (by simp_all), hch⟩⟩
  refine ⟨hbut, fun hsources ch hch => ?_, ?_⟩
  · refine (hbut ch hch).resolve_right ?_
    rintro ⟨hraw, s, hs, hmem⟩
    rw [hsources s hs ch hmem] at hraw
    cases hraw
  · rintro rfl ch hch
    have hskeleton : PrintableBut (fun _ => False) (skeleton config) := printableBut_skeleton
    exact (hskeleton ch hch).resolve_right id

/-- Names with escapes, breaks and capitals that have no small letter of one character. -/
def awkwardNodes : List Node := [
  .ofKind "node-1" .server "\x1b[0m İstanbul\u2028kind: Secret",
  .ofKind "node-2" (.other "queue\x00\u0085#") "\"\\\t"]

theorem printable_of_generate_awkward :
    let text := ((Generator.ofConfig .default).generate awkwardNodes Format.yaml.name ⟨0, 0⟩).result
    let skeleton := ((Generator.ofConfig .default).generate [] Format.yaml.name ⟨0, 0⟩).result
    (∀ s ∈ sources .default awkwardNodes, ∀ ch ∈ s.toList, isUnescaped ch = false) ∧
      (∀ ch ∈ text.toList, isPrintable ch = true) ∧ ∀ ch ∈ skeleton.toList, isPrintable ch = true := by
  intro text skeleton
  have hsources : ∀ s ∈ sources .default awkwardNodes, ∀ ch ∈ s.toList, isUnescaped ch = false := by
    intro s hs ch hch
    have hall : (sources .default awkwardNodes).all (·.toList.all (!isUnescaped ·)) = true := by decide
    simpa using List.all_eq_true.1 (List.all_eq_true.1 hall s hs) ch hch
  exact ⟨hsources, (printable_of_generate .default awkwardNodes ⟨0, 0⟩).2.1 hsources,
    (printable_of_generate .default [] ⟨0, 0⟩).2.2 rfl⟩

/-- **An unescaped character of a name stays in the text** of any components, unless its component is
a server. -/
theorem unescaped_stays {config : GeneratorConfig} {nodes : List Node} {now : Instant} {n : Node}
    (hn : n ∈ nodes) (hkind : n.kind ≠ .server) {ch : Char} (hch : ch ∈ n.displayName.toList)
    (hraw : isUnescaped ch = true) :
    ch ∈ ((Generator.ofConfig config).generate nodes Format.yaml.name now).result.toList := by
  have htext : text config nodes = stream config nodes := by
    cases nodes with
    | nil => cases hn
    | cons m rest => exact if_neg Bool.false_ne_true
  have hnumber : n ∈ (numbered nodes).map Prod.fst := by rwa [numbered, List.zipIdx_map_fst]
  obtain ⟨⟨m, i⟩, hitem, rfl⟩ := List.mem_map.1 hnumber
  have hline : "  component-name: " ++ yamlScalar m.displayName ∈ manifestLines config m i := by
    have hlines : manifestLines config m i = configMapLines config m i := by simp only [manifestLines]
    simp [hlines, configMapLines]
  have hclosed : ch ∈ (closedLines (manifestLines config m i)).toList := by
    rw [toList_closedLines]
    refine List.mem_flatMap.2 ⟨_, hline, ?_⟩
    simp [mem_yamlScalar hch hraw]
  rw [result_generate_yaml, htext]
  refine mem_intercalate (List.mem_map_of_mem (List.mem_cons_of_mem _ ?_)) hclosed
  exact List.mem_map_of_mem (f := fun item => manifestLines config item.1 item.2) hitem

theorem unescaped_stays_delete :
    ¬ ∀ (config : GeneratorConfig) (nodes : List Node) (now : Instant),
      ∀ ch ∈ ((Generator.ofConfig config).generate nodes Format.yaml.name now).result.toList,
        isPrintable ch = true := by
  intro h
  let n := Node.ofKind "node-1" .storage "disk\x7f"
  have hmem : '\x7f' ∈ n.displayName.toList := by decide
  have hprintable := h .default [n] ⟨0, 0⟩ '\x7f'
    (unescaped_stays List.mem_cons_self (by decide) hmem (by decide))
  exact absurd hprintable (by decide)

end CloudDiagram.Manifest
