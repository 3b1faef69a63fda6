import CloudDiagram.Generation.Terraform
import CloudDiagram.Proofs.Hcl.Lines
import CloudDiagram.Proofs.Notice
import CloudDiagram.Proofs.Terraform.Identifier

/-!
# The structure of resource files

* `passes_settings`, … `passes_resource`: what each section adds to a file;
* `Terraform.headings`: the blocks and comments of a file, in order;
* **`structure_of_emit`**: these are what stands in it, whatever the texts in the diagram and the
  configuration.
-/

namespace CloudDiagram.Terraform

open Hcl

/-! ## Sections of every file -/

/-- Inside a block. -/
def body : Place := .inside .brace []

/-- Inside a block in a block. -/
def nested : Place := .inside .brace [.brace]

/-- Inside the innermost block of the settings. -/
def deep : Place := .inside .brace [.brace, .brace]

theorem passesLine {p : Place} (q : Place) (refs : List String) {l : List Char}
    (h : survey p (l ++ ['\n']) = some ([], refs, q)) :
    Passes p ((String.ofList l).toList ++ ['\n']) [] refs q :=
  .fixedLine h

theorem passes_settings (c : GeneratorConfig) :
    Passes .top ((settings c).toList ++ ['\n']) [.block "terraform" []] [] .top := by
  refine PassesLines.passes ?_ (List.cons_ne_nil _ _)
  have hopen : Passes .top ("terraform \x7b".toList ++ ['\n']) [.block "terraform" []] [] body :=
    .fixedLine rfl
  exact .cons hopen <|
    .cons (.attributeLine c.terraformVersion rfl) <|
    .cons (passesLine nested [] rfl) <|
    .cons (passesLine deep [] rfl) <|
    .cons (passesLine deep [] rfl) <|
    .cons (.attributeLine c.awsProviderVersion rfl) <|
    .cons (passesLine nested [] rfl) <|
    .cons (passesLine body [] rfl) <|
    .cons (passesLine .top [] rfl) .nil

theorem passes_provider : Passes .top ((providerBlock "var.aws_region").toList ++ ['\n'])
    [.block "provider" ["aws"]] ["var.aws_region"] .top := by
  refine PassesLines.passes ?_ (List.cons_ne_nil _ _)
  have hopen : Passes .top ("provider \"aws\" \x7b".toList ++ ['\n']) [.block "provider" ["aws"]] []
      body := .fixedLine rfl
  have hregion : Passes body ("  region = var.aws_region".toList ++ ['\n']) [] ["var.aws_region"]
      body := passesLine body ["var.aws_region"] rfl
  exact .cons hopen <| .cons hregion <| .cons (passesLine .top [] rfl) .nil

theorem plain_of_isIdentifierChar {c : Char} (h : (Text.isAlphanumeric c || c == '_') = true) :
    Plain c := by
  have hne : ∀ d : Char, (Text.isAlphanumeric d || d == '_') = false → c ≠ d := by
    rintro d hd rfl
    rw [h] at hd
    cases hd
  refine ⟨hne _ (by decide), hne _ (by decide), ?_, fun s => ?_⟩
  · rw [isLineEnd, beq_false_of_ne (hne '\n' (by decide)), beq_false_of_ne (hne '\r' (by decide))]
    rfl
  · cases s <;> exact hne _ (by decide)

theorem passes_variableBlock (name description default : String)
    (hname : (name.toList.all fun c => Text.isAlphanumeric c || c == '_') = true) :
    Passes .top ((variableBlock name description default).toList ++ ['\n'])
      [.block "variable" [name]] [] .top := by
  refine PassesLines.passes ?_ (List.cons_ne_nil _ _)
  have hplain : ∀ c ∈ name.toList, Plain c := fun c hc =>
    plain_of_isIdentifierChar (List.all_eq_true.1 hname c hc)
  exact .cons (.labelLine "variable" [] hplain rfl) <|
    .cons (.attributeLine description rfl) <|
    .cons (passesLine body [] rfl) <|
    .cons (.attributeLine default rfl) <|
    .cons (passesLine .top [] rfl) .nil

theorem passes_imageLookup : Passes .top (imageLookup.toList ++ ['\n'])
    [.block "data" ["aws_ami", "ubuntu"]] [] .top := by
  refine PassesLines.passes ?_ (List.cons_ne_nil _ _)
  have hopen : Passes .top ("data \"aws_ami\" \"ubuntu\" \x7b".toList ++ ['\n'])
      [.block "data" ["aws_ami", "ubuntu"]] [] body := .fixedLine rfl
  exact .cons hopen <|
    .cons (passesLine body [] rfl) <|
    .cons (passesLine body [] rfl) <|
    .cons (passesLine body [] rfl) <|
    .cons (passesLine nested [] rfl) <|
    .cons (passesLine nested [] rfl) <|
    .cons (passesLine nested [] rfl) <|
    .cons (passesLine body [] rfl) <|
    .cons (passesLine .top [] rfl) .nil

/-! ## Sections of components -/

theorem plain_terraformIdentifier (kind : String) (index : Nat) :
    ∀ c ∈ (terraformIdentifier kind index).toList, Plain c :=
  fun _ hc => plain_of_isIdentifierChar (isIdentifierChar_of_mem hc)

theorem passes_tagLines (name : String) (c : GeneratorConfig) :
    PassesLines body (tagLines name c ++ ["\x7d"]) [] ["var.environment"] .top := by
  have henvironment : Passes nested ("    Environment = var.environment".toList ++ ['\n']) []
      ["var.environment"] nested := passesLine nested ["var.environment"] rfl
  exact .cons (passesLine nested [] rfl) <|
    .cons (.attributeLine name rfl) <|
    .cons henvironment <|
    .cons (.attributeLine c.projectName rfl) <|
    .cons (passesLine body [] rfl) <|
    .cons (passesLine .top [] rfl) .nil

/-- **A server adds one block**, whatever it is called and whatever its properties say. -/
theorem passes_serverBlock (c : GeneratorConfig) (n : Node) {identifier : String}
    (hidentifier : ∀ d ∈ identifier.toList, Plain d) :
    Passes .top ((serverBlock c n identifier).result.toList ++ ['\n'])
      [.block "resource" ["aws_instance", identifier]]
      ["data.aws_ami.ubuntu.id", "var.environment"] .top := by
  have himage : Passes body ("  ami           = data.aws_ami.ubuntu.id".toList ++ ['\n']) []
      ["data.aws_ami.ubuntu.id"] body := passesLine body ["data.aws_ami.ubuntu.id"] rfl
  rw [serverBlock, Noted.result_bind, Noted.result_pure]
  refine PassesLines.passes ?_ (List.cons_ne_nil _ _)
  rw [List.append_assoc]
  show PassesLines .top _ ([_] ++ []) ([_] ++ ["var.environment"]) .top
  refine PassesLines.append ?_ (passes_tagLines n.displayName c)
  exact .cons (.labelLine "resource" ["aws_instance"] hidentifier rfl) <|
    .cons himage <|
    .cons (.attributeLine _ rfl) <|
    .cons (passesLine body [] rfl) <|
    .cons (passesLine nested [] rfl) <|
    .cons (.numberLine _ rfl) <|
    .cons (passesLine nested [] rfl) <|
    .cons (passesLine body [] rfl) <|
    .cons (passesLine body [] rfl) .nil

theorem passes_engineVersionLine (engineName : String) :
    PassesLines body (engineVersionLine engineName) [] [] body := by
  unfold engineVersionLine
  split
  · exact .cons (.attributeLine _ rfl) .nil
  · exact .nil

theorem passes_standbyLine (standby : Bool) :
    Passes body (("  multi_az = " ++ if standby then "true" else "false").toList ++ ['\n']) [] []
      body := by
  have hfalse : Passes body ("  multi_az = false".toList ++ ['\n']) [] [] body :=
    passesLine body [] rfl
  have htrue : Passes body ("  multi_az = true".toList ++ ['\n']) [] [] body :=
    passesLine body [] rfl
  cases standby
  · exact hfalse
  · exact htrue

theorem passes_databaseBlock (c : GeneratorConfig) (n : Node) {identifier : String}
    (hidentifier : ∀ d ∈ identifier.toList, Plain d) :
    Passes .top ((databaseBlock c n identifier).result.toList ++ ['\n'])
      [.block "resource" ["aws_db_instance", identifier]]
      ["var.environment"] .top := by
  rw [databaseBlock, Noted.result_bind, Noted.result_pure]
  refine PassesLines.passes ?_ (List.cons_ne_nil _ _)
  rw [List.append_assoc, List.append_assoc, List.append_assoc]
  show PassesLines .top _ ([_] ++ ([] ++ ([] ++ []))) ([] ++ ([] ++ ([] ++ ["var.environment"])))
    .top
  refine PassesLines.append ?_ <| (passes_engineVersionLine _).append <|
    PassesLines.append ?_ (passes_tagLines n.displayName c)
  · exact .cons (.labelLine "resource" ["aws_db_instance"] hidentifier rfl) <|
    .cons (.attributeLine _ rfl) <|
    .cons (.attributeLine _ rfl) .nil
  · exact .cons (.attributeLine _ rfl) <|
    .cons (passesLine body [] rfl) <|
    .cons (passesLine body [] rfl) <|
    .cons (passesLine body [] rfl) <|
    .cons (passesLine body [] rfl) <|
    .cons (passesLine body [] rfl) <|
    .cons (passesLine body [] rfl) <|
    .cons (passes_standbyLine _) <|
    .cons (passesLine body [] rfl) .nil

/-- **Any other component adds comments only.** -/
theorem passes_commentBlock (n : Node) :
    Passes .top ((commentBlock n).toList ++ ['\n']) [.comment, .comment, .comment] [] .top := by
  have hkind : OnOneLine (commentText n.kind.text) := onOneLine_commentText _
  have hname : OnOneLine (commentText n.displayName) := onOneLine_commentText _
  have hstart : OnOneLine "# " := .fixed rfl
  have hend : OnOneLine " resource" := .fixed rfl
  have hconfiguration : OnOneLine "# Configuration for " := .fixed rfl
  have htype : OnOneLine "# Resource type: " := .fixed rfl
  rw [commentBlock, String.append_assoc]
  refine PassesLines.passes ?_ (List.cons_ne_nil _ _)
  exact .cons (.commentLine (hstart.append (hkind.append hend))) <|
    .cons (.commentLine (hconfiguration.append hname)) <|
    .cons (.commentLine (htype.append hkind)) .nil

/-- What a component adds to the outline, by its number. -/
def resourceHeadings (n : Node) (index : Nat) : List Heading :=
  match n.kind with
  | .server => [.block "resource" ["aws_instance", terraformIdentifier n.kind.text index]]
  | .database => [.block "resource" ["aws_db_instance", terraformIdentifier n.kind.text index]]
  | _ => [.comment, .comment, .comment]

/-- What a component looks up. -/
def resourceReferences (n : Node) : List String :=
  match n.kind with
  | .server => ["data.aws_ami.ubuntu.id", "var.environment"]
  | .database => ["var.environment"]
  | _ => []

theorem passes_resource (c : GeneratorConfig) (n : Node) (index : Nat) :
    Passes .top ((resource c n index).result.toList ++ ['\n']) (resourceHeadings n index)
      (resourceReferences n) .top := by
  have hidentifier := plain_terraformIdentifier n.kind.text index
  unfold resource
  split
  · rename_i hkind
    rw [resourceHeadings, resourceReferences, hkind]
    exact passes_serverBlock c n (hkind ▸ hidentifier)
  · rename_i hkind
    rw [resourceHeadings, resourceReferences, hkind]
    exact passes_databaseBlock c n (hkind ▸ hidentifier)
  · rename_i hserver hdatabase
    have hheadings : resourceHeadings n index = [.comment, .comment, .comment] := by
      simp only [resourceHeadings]
    have hreferences : resourceReferences n = [] := by simp only [resourceReferences]
    rw [hheadings, hreferences]
    exact passes_commentBlock n

/-! ## The file -/

theorem passes_renderAll (c : GeneratorConfig) (items : List (Node × Nat)) :
    PassesSections (renderAll (resource c) items).result
      (items.flatMap fun item => resourceHeadings item.1 item.2)
      (items.flatMap fun item => resourceReferences item.1) := by
  induction items with
  | nil => exact .nil
  | cons item rest ih => exact .cons (passes_resource c item.1 item.2) ih

/-- The block that looks up the image stands in the file if there is a server. -/
def lookupHeadings (nodes : List Node) : List Heading :=
  if nodes.any (fun n => n.kind == .server) then [.block "data" ["aws_ami", "ubuntu"]] else []

theorem passes_lookup (nodes : List Node) :
    PassesSections (if nodes.any (fun n => n.kind == .server) then [imageLookup] else [])
      (lookupHeadings nodes) [] := by
  unfold lookupHeadings
  split
  · exact .cons passes_imageLookup .nil
  · exact .nil

/-- **What stands in the file of components**: two comments, the settings, the provider, two
variables, the image if there is a server, then each component in turn. -/
def headings (nodes : List Node) : List Heading :=
  [.comment, .comment, .block "terraform" [], .block "provider" ["aws"],
    .block "variable" ["aws_region"], .block "variable" ["environment"]] ++ lookupHeadings nodes ++
    (numbered nodes).flatMap fun item => resourceHeadings item.1 item.2

/-- What the file of components looks up. -/
def lookedUp (nodes : List Node) : List String :=
  "var.aws_region" :: (numbered nodes).flatMap fun item => resourceReferences item.1

theorem passes_file (c : GeneratorConfig) (nodes : List Node) :
    Passes .top (file c nodes).result.toList (headings nodes) (lookedUp nodes) .top := by
  have hproject : OnOneLine ("# Infrastructure as Code for " ++ commentText c.projectName) :=
    (OnOneLine.fixed rfl).append (onOneLine_commentText _)
  have htitle : Passes .top ("# Generated Terraform Configuration".toList ++ ['\n']) [.comment] []
      .top := .fixedLine rfl
  have hblank : Passes .top ("".toList ++ ['\n']) [] [] .top := passesLine .top [] rfl
  have hfirst := PassesLines.cons htitle <| .cons (.commentLine hproject) <| .cons hblank <|
    .cons (passes_settings c) .nil
  have hsections := PassesSections.cons passes_provider <|
    .cons (passes_variableBlock "aws_region" "AWS region" c.awsRegion rfl) <|
    .cons (passes_variableBlock "environment" "Environment name" c.environment
      rfl) <|
    (passes_lookup nodes).append (passes_renderAll c (numbered nodes))
  have hfile := (hfirst.passes (List.cons_ne_nil _ _)).append hsections
  have hend : "\n".toList = ['\n'] := rfl
  rw [file, Noted.result_bind, Noted.result_pure, String.toList_append, preamble, List.append_assoc,
    List.cons_append, hend, toList_sections]
  exact hfile

/-! ## Names -/

/-- The name of a resource, if the heading is that of one. -/
def resourceName? : Heading → Option String
  | .block "resource" [_, name] => some name
  | _ => none

theorem resourceNames_sublist (n : Node) (index : Nat) :
    ((resourceHeadings n index).filterMap resourceName?).Sublist
      [terraformIdentifier n.kind.text index] := by
  unfold resourceHeadings
  split
  · exact .refl _
  · exact .refl _
  · exact List.nil_sublist _

/-- The resources of numbered components are among their identifiers, in order. -/
theorem resourceNames_flatMap_sublist (items : List (Node × Nat)) :
    ((items.flatMap fun item => resourceHeadings item.1 item.2).filterMap resourceName?).Sublist
      (items.map fun item => terraformIdentifier item.1.kind.text item.2) := by
  induction items with
  | nil => exact .refl _
  | cons item rest ih =>
    rw [List.flatMap_cons, List.filterMap_append, List.map_cons, ← List.singleton_append]
    exact (resourceNames_sublist item.1 item.2).append ih

theorem nodup_identifiers (nodes : List Node) :
    ((numbered nodes).map fun item => terraformIdentifier item.1.kind.text item.2).Nodup := by
  have hnumbers : ((numbered nodes).map Prod.snd).Nodup := by
    rw [numbered, List.zipIdx_map_snd]
    exact List.nodup_range'
  have hpairs := List.pairwise_map.1 hnumbers
  exact List.pairwise_map.2 (hpairs.imp fun hne heq => hne (terraformIdentifier_injective heq))

theorem nodup_resourceNames (nodes : List Node) :
    ((headings nodes).filterMap resourceName?).Nodup := by
  have hlookup : (lookupHeadings nodes).filterMap resourceName? = [] := by
    unfold lookupHeadings
    split <;> rfl
  have hsplit : (headings nodes).filterMap resourceName? =
      ((numbered nodes).flatMap fun item => resourceHeadings item.1 item.2).filterMap
        resourceName? := by
    rw [headings, List.filterMap_append, List.filterMap_append, hlookup]
    rfl
  rw [hsplit]
  exact (nodup_identifiers nodes).sublist (resourceNames_flatMap_sublist (numbered nodes))

/-- What a component looks up is a variable, or the image that a server makes the file look up. -/
theorem resourceReferences_cases {n : Node} {w : String} (h : w ∈ resourceReferences n) :
    w = "var.environment" ∨ n.kind = .server ∧ w = "data.aws_ami.ubuntu.id" := by
  unfold resourceReferences at h
  split at h
  · rename_i hkind
    obtain rfl | rfl : w = "data.aws_ami.ubuntu.id" ∨ w = "var.environment" := by simpa using h
    · exact .inr ⟨hkind, rfl⟩
    · exact .inl rfl
  · exact .inl (List.mem_singleton.1 h)
  · cases h

theorem variable_mem_headings {nodes : List Node} {name : String}
    (h : name = "aws_region" ∨ name = "environment") :
    .block "variable" [name] ∈ headings nodes := by
  rw [headings, List.append_assoc]
  refine List.mem_append_left _ ?_
  obtain rfl | rfl := h <;> decide

theorem image_mem_headings {nodes : List Node} {n : Node} (hn : n ∈ nodes)
    (hkind : n.kind = .server) : .block "data" ["aws_ami", "ubuntu"] ∈ headings nodes := by
  have hany : nodes.any (fun m => m.kind == .server) = true :=
    List.any_eq_true.2 ⟨n, hn, by rw [hkind]; rfl⟩
  have hlookup : lookupHeadings nodes = [.block "data" ["aws_ami", "ubuntu"]] := if_pos hany
  rw [headings, hlookup]
  exact List.mem_append_left _ (List.mem_append_right _ List.mem_cons_self)

/-- **What is looked up is given** by a block of the file. -/
theorem exists_declares {nodes : List Node} {w : String} (h : w ∈ lookedUp nodes) :
    ∃ heading ∈ headings nodes, heading.declares w := by
  rcases List.mem_cons.1 h with rfl | h
  · exact ⟨_, variable_mem_headings (.inl rfl), rfl⟩
  obtain ⟨item, hitem, hw⟩ := List.mem_flatMap.1 h
  obtain rfl | ⟨hkind, rfl⟩ := resourceReferences_cases hw
  · exact ⟨_, variable_mem_headings (.inr rfl), rfl⟩
  · have hnode : item.1 ∈ nodes := List.fst_mem_of_mem_zipIdx hitem
    exact ⟨_, image_mem_headings hnode hkind, .inr ⟨"id", rfl⟩⟩

/-! ## The structure of a file -/

/-- **The structure of a file is what its components make it**, whatever texts stand in the
configuration and the diagram. Its tokens can be read, so that every string is closed on its line and
no template is opened; its brackets are balanced; its blocks and comments are those of `headings`;
its resources have distinct names; and what it looks up is given in it. -/
theorem structure_of_emit (context : EmitContext) (nodes : List Node) :
    ∃ text tokens, (emitter.emit context nodes).result = some text ∧ Hcl.lex text = .ok tokens ∧
      Balanced .brace tokens ∧ Balanced .square tokens ∧
      outline tokens = some (headings nodes) ∧
      ((headings nodes).filterMap resourceName?).Nodup ∧
      ∀ w ∈ references tokens, ∃ heading ∈ headings nodes, heading.declares w := by
  obtain ⟨tokens, hscan, hfollow, hreferences⟩ := passes_file context.config nodes
  have houtline : outline tokens = some (headings nodes) := by rw [outline, hfollow]
  refine ⟨(file context.config nodes).result, tokens, rfl, lex_of_scan hscan,
    balanced_of_follow .brace hfollow, balanced_of_follow .square hfollow, houtline,
    nodup_resourceNames nodes, fun w hw => exists_declares ?_⟩
  rw [← hreferences]
  exact hw

end CloudDiagram.Terraform
