import CloudDiagram.Proofs.Manifest.Generated
import CloudDiagram.Proofs.Manifest.ObjectName

/-!
# The namespace in manifests

The namespace is written as a label without quotes, so a reader decides from its characters what it is.

* `namespacePlaces`, `namespaceReadings`: where the objects of a text name their namespace, and what is
  read there;
* `implicitTag_of_isLabel`: a label is a string if it starts with a letter and is no reserved word;
* **`namespace_read`**: the namespace is read alike wherever it stands, as its label, and as a string
  exactly where the label alone is one;
* `namespace_misread`: a namespace of digits is read as a number.
-/

namespace CloudDiagram.Manifest

open Yaml Text

/-! ## Where the namespace stands -/

/-- Where an object names its namespace, by the kind of the object. -/
def namespacePlaces (kind : String) : List (List Step) :=
  if kind = "Namespace" then
    [[.key "metadata", .key "name"], [.key "metadata", .key "labels", .key "managed-by"]]
  else if kind = "Deployment" then
    [[.key "metadata", .key "namespace"], [.key "metadata", .key "labels", .key "managed-by"]]
  else [[.key "metadata", .key "namespace"]]

/-- What an object says at the places of its namespace. -/
def placeReadings (t : Tree) : List (Option Scalar) :=
  match t.at? [.key "kind"] with
  | some kind => (namespacePlaces kind.text).map t.at?
  | none => [none]

/-- **What a text says at the places of the namespace**, document by document; nothing at a place that
is missing, or in a document that cannot be read. -/
def namespaceReadings (text : String) : List (Option Scalar) :=
  (documents text).flatMap fun doc => (readDocument doc).elim [none] placeReadings

/-- How often a manifest names the namespace. -/
def mentions : Kind → Nat
  | .server => 2
  | _ => 1

section

variable (c : GeneratorConfig)

theorem placeReadings_namespaceTree : placeReadings (namespaceTree c) =
    List.replicate 2 (some (.plain (dnsLabel c.namespaceName))) := by
  rfl

theorem placeReadings_manifestTree (n : Node) (i : Nat) :
    placeReadings (manifestTree c n i) =
      List.replicate (mentions n.kind) (some (.plain (dnsLabel c.namespaceName))) := by
  by_cases hn : n.kind = .server
  · simp only [manifestTree, mentions, hn]
    rfl
  · have htree : manifestTree c n i = configMapTree c n i := by simp only [manifestTree]
    have hmentions : mentions n.kind = 1 := by simp only [mentions]
    rw [htree, hmentions]
    rfl

/-- **The namespace is read as its label** at all its places. -/
theorem namespaceReadings_text (nodes : List Node) :
    namespaceReadings (text c nodes) =
      List.replicate (2 + (nodes.map fun n => mentions n.kind).sum)
        (some (.plain (dnsLabel c.namespaceName))) := by
  have hdocs : namespaceReadings (text c nodes) =
      placeReadings (namespaceTree c) ++
        (numbered nodes).flatMap fun item => placeReadings (manifestTree c item.1 item.2) := by
    have hread := congrArg (List.flatMap fun read : Option Tree => read.elim [none] placeReadings)
      (readDocuments_text c nodes)
    rw [List.flatMap_map, List.flatMap_cons, List.flatMap_map] at hread
    exact hread
  rw [hdocs, List.eq_replicate_iff]
  simp only [placeReadings_namespaceTree, placeReadings_manifestTree]
  constructor
  · rw [List.length_append, List.length_replicate, List.length_flatMap, ← map_numbered]
    simp only [List.length_replicate]
  · intro s hs
    rcases List.mem_append.1 hs with hs | hs
    · exact List.eq_of_mem_replicate hs
    · obtain ⟨item, -, hitem⟩ := List.mem_flatMap.1 hs
      exact List.eq_of_mem_replicate hitem

end

/-! ## What a label is taken for -/

variable {l : List Char} {s : String}

theorem asciiLower_of_isLabelChar {a : Char} (h : isLabelChar a = true ∨ a = '-') :
    asciiLower a = a := by
  have hcapital : ¬ (65 ≤ a.toNat ∧ a.toNat ≤ 90) := by
    obtain h | rfl := h
    · rw [isLabelChar_iff] at h
      omega
    · decide
  rw [← Char.toNat_inj, toNat_asciiLower, if_neg hcapital]

theorem toAsciiLower_of_isLabel (h : IsLabel s.toList) : toAsciiLower s = s := by
  have hmap : s.toList.map asciiLower = s.toList.map id :=
    List.map_congr_left fun a ha => asciiLower_of_isLabelChar (h.chars a ha)
  rw [toAsciiLower, hmap, List.map_id, String.ofList_toList]

/-- **A label is a string** if it starts with a letter and is no reserved word. -/
theorem implicitTag_of_isLabel (h : IsLabel s.toList) (hletter : ∀ a ∈ s.toList.head?, isDigit a = false)
    (hword : s ∉ reservedWords) : implicitTag s = .string := by
  obtain ⟨a, rest, hs⟩ := List.exists_cons_of_ne_nil h.nonempty
  have hfirst : isLabelChar a = true := h.first a (by rw [hs]; rfl)
  have hdigit : isDigit a = false := hletter a (by rw [hs]; rfl)
  refine implicitTag_eq_string hs (fun hstart => ?_) (fun hmem => ?_) fun hkey => ?_
  · have hall : Pattern.numberStarts.all (fun d => isDigit d || !isLabelChar d) = true := rfl
    have hnot := List.all_eq_true.1 hall a hstart
    simp [hfirst, hdigit] at hnot
  · rw [toAsciiLower_of_isLabel h] at hmem
    have hsubset : nullWords ++ boolWords ⊆ "" :: reservedWords := by decide
    rcases List.mem_cons.1 (hsubset hmem) with rfl | hreserved
    · exact h.nonempty rfl
    · exact hword hreserved
  · have hall : ["<<", "="].all (fun t => t.toList.all fun d => !isLabelChar d) = true := rfl
    have hnot := List.all_eq_true.1 (List.all_eq_true.1 hall s hkey) a (by rw [hs]; exact List.mem_cons_self)
    simp [hfirst] at hnot

/-! ## Digits -/

theorem rmatch_oneOf {a : Char} (h : a ∈ l) : (Pattern.oneOf l).rmatch [a] = true := by
  induction l with
  | nil => cases h
  | cons b l ih =>
    have hsplit : Pattern.oneOf (b :: l) = .char b + Pattern.oneOf l := rfl
    rw [hsplit, RegularExpression.add_rmatch_iff]
    rcases List.mem_cons.1 h with rfl | h
    · exact .inl ((RegularExpression.char_rmatch_iff _ _).2 rfl)
    · exact .inr (ih h)

theorem rmatch_star {p : Pattern} (h : ∀ a ∈ l, p.rmatch [a] = true) :
    (RegularExpression.star p).rmatch l = true := by
  rw [RegularExpression.star_rmatch_iff]
  refine ⟨l.map fun a => [a], ?_, ?_⟩
  · rw [← List.flatMap_def, List.flatMap_singleton']
  · intro t ht
    obtain ⟨a, ha, rfl⟩ := List.mem_map.1 ht
    exact ⟨List.cons_ne_nil a [], h a ha⟩

theorem rmatch_digit {a : Char} (h : isDigit a = true) : Pattern.digit.rmatch [a] = true := by
  refine rmatch_oneOf ?_
  have hcode := isDigit_iff.1 h
  rw [← Char.ofNat_toNat a]
  generalize a.toNat = n at hcode
  obtain rfl | rfl | rfl | rfl | rfl | rfl | rfl | rfl | rfl | rfl : n = 48 ∨ n = 49 ∨ n = 50 ∨
      n = 51 ∨ n = 52 ∨ n = 53 ∨ n = 54 ∨ n = 55 ∨ n = 56 ∨ n = 57 := by omega
  all_goals decide

theorem implicitTag_of_digits (hne : s.toList ≠ []) (hdigits : ∀ a ∈ s.toList, isDigit a = true) :
    implicitTag s = .int := by
  obtain ⟨a, rest, hs⟩ := List.exists_cons_of_ne_nil hne
  rw [hs] at hdigits
  obtain ⟨hfirst, hrest⟩ := List.forall_mem_cons.1 hdigits
  have hlabel : IsLabel s.toList := by
    rw [hs]
    exact .fixed (List.all_eq_true.2 fun b hb => by simp [isLabelChar, hdigits b hb])
  have hwords : ∀ t ∈ nullWords ++ boolWords, s ≠ t := by
    rintro t ht rfl
    have hall : (nullWords ++ boolWords).all (fun t => t.toList.head?.all fun b => !isDigit b) = true := rfl
    have hnot := List.all_eq_true.1 hall s ht
    simp [hs, hfirst] at hnot
  have hnull : s ∉ nullWords := fun h => hwords s (List.mem_append_left _ h) rfl
  have hbool : s ∉ boolWords := fun h => hwords s (List.mem_append_right _ h) rfl
  have hint : Pattern.integers.any (·.rmatch s.toList) = true := by
    refine List.any_eq_true.2 ⟨Pattern.sign * Pattern.several Pattern.digit, by simp [Pattern.integers], ?_⟩
    have hseveral : (Pattern.several Pattern.digit).rmatch s.toList = true := by
      rw [Pattern.several, RegularExpression.mul_rmatch_iff, hs]
      exact ⟨[a], rest, rfl, rmatch_digit hfirst, rmatch_star fun b hb => rmatch_digit (hrest b hb)⟩
    rw [RegularExpression.mul_rmatch_iff]
    exact ⟨[], s.toList, rfl, rfl, hseveral⟩
  simp only [implicitTag, toAsciiLower_of_isLabel hlabel, List.contains_eq_mem, hnull, hbool, hint,
    decide_false, Bool.false_eq_true, if_false, if_true]

/-! ## The namespace -/

theorem namespaceReadings_generate (config : GeneratorConfig) (nodes : List Node) (now : Instant) :
    namespaceReadings ((Generator.ofConfig config).generate nodes Format.yaml.name now).result =
      List.replicate (2 + (nodes.map fun n => mentions n.kind).sum)
        (some (.plain (dnsLabel config.namespaceName))) := by
  rw [result_generate_yaml, namespaceReadings_text]

/-- **The namespace is read alike wherever it stands**, whatever texts stand in the configuration and
the diagram: at all places of all documents as the label that was made of it, and with the type that
this label has by itself. So it is read as a string if and only if the label alone is one, which it is
if it starts with a letter and is no reserved word. -/
theorem namespace_read (config : GeneratorConfig) (nodes : List Node) (now : Instant) :
    let label := dnsLabel config.namespaceName
    let readings := namespaceReadings
      ((Generator.ofConfig config).generate nodes Format.yaml.name now).result
    readings.length = 2 + (nodes.map fun n => mentions n.kind).sum ∧
    (∀ r ∈ readings, r = some ⟨implicitTag label, label⟩) ∧
    ((∀ r ∈ readings, r = some (.string label)) ↔ implicitTag label = .string) ∧
    ((∀ a ∈ label.toList.head?, isDigit a = false) → label ∉ reservedWords →
      ∀ r ∈ readings, r = some (.string label)) := by
  intro label readings
  have hlabel : IsLabel label.toList := isLabel_dnsLabel config.namespaceName
  have hreadings : readings = List.replicate (2 + (nodes.map fun n => mentions n.kind).sum)
      (some (.plain label)) := namespaceReadings_generate config nodes now
  clear_value label readings
  subst hreadings
  have hstring (htag : implicitTag label = .string) :
      some (Scalar.plain label) = some (.string label) := by
    rw [Scalar.plain, htag, Scalar.string]
  refine ⟨List.length_replicate, fun r hr => List.eq_of_mem_replicate hr, ⟨fun h => ?_, ?_⟩, ?_⟩
  · -- there is a place at least, since every text has a namespace
    have hplain := h (some (.plain label)) (List.mem_replicate.2 ⟨by omega, rfl⟩)
    exact congrArg Scalar.tag (Option.some.inj hplain)
  · intro htag r hr
    rw [List.eq_of_mem_replicate hr, hstring htag]
  · intro hletter hword r hr
    rw [List.eq_of_mem_replicate hr, hstring (implicitTag_of_isLabel hlabel hletter hword)]

/-- A namespace with capitals, a blank and a sign, over servers and other components. -/
theorem namespace_read_team :
    let config := { GeneratorConfig.default with namespaceName := "Team A!" }
    let readings := namespaceReadings
      ((Generator.ofConfig config).generate mixedNodes Format.yaml.name ⟨0, 0⟩).result
    (∀ a ∈ (dnsLabel config.namespaceName).toList.head?, isDigit a = false) ∧
      dnsLabel config.namespaceName ∉ reservedWords ∧
      readings.length = 9 ∧ ∀ r ∈ readings, r = some (.string "team-a") := by
  intro config readings
  have hlabel : dnsLabel config.namespaceName = "team-a" := by decide
  have hhead : (dnsLabel config.namespaceName).toList.head? = some 't' := by decide
  have hletter : ∀ a ∈ (dnsLabel config.namespaceName).toList.head?, isDigit a = false := by
    rw [hhead]
    rintro a ⟨⟩
    rfl
  have hword : dnsLabel config.namespaceName ∉ reservedWords := by decide
  obtain ⟨hlength, -, -, hread⟩ := namespace_read config mixedNodes ⟨0, 0⟩
  refine ⟨hletter, hword, hlength.trans (by decide), ?_⟩
  rw [← hlabel]
  exact hread hletter hword

/-- **A namespace of digits is read as a number** wherever it stands. -/
theorem namespace_misread (config : GeneratorConfig) (nodes : List Node) (now : Instant)
    (hdigits : ∀ a ∈ (dnsLabel config.namespaceName).toList, isDigit a = true) :
    ∀ r ∈ namespaceReadings
        ((Generator.ofConfig config).generate nodes Format.yaml.name now).result,
      r = some ⟨.int, dnsLabel config.namespaceName⟩ := by
  have htag := implicitTag_of_digits (isLabel_dnsLabel config.namespaceName).nonempty hdigits
  intro r hr
  rw [namespaceReadings_generate] at hr
  rw [List.eq_of_mem_replicate hr, Scalar.plain, htag]

theorem namespace_misread_account :
    ¬ ∀ (config : GeneratorConfig) (nodes : List Node) (now : Instant),
      ∀ r ∈ namespaceReadings
          ((Generator.ofConfig config).generate nodes Format.yaml.name now).result,
        r = some (.string (dnsLabel config.namespaceName)) := by
  intro h
  let config := { GeneratorConfig.default with namespaceName := "123" }
  have hall : (dnsLabel config.namespaceName).toList.all isDigit = true := by decide
  have hdigits := List.all_eq_true.1 hall
  have hplace : some (.plain (dnsLabel config.namespaceName)) ∈ namespaceReadings
      ((Generator.ofConfig config).generate [] Format.yaml.name ⟨0, 0⟩).result := by
    rw [namespaceReadings_generate, List.mem_replicate]
    exact ⟨by decide, rfl⟩
  have hint := namespace_misread config [] ⟨0, 0⟩ hdigits _ hplace
  have hstring := h config [] ⟨0, 0⟩ _ hplace
  rw [hint] at hstring
  cases hstring

end CloudDiagram.Manifest
