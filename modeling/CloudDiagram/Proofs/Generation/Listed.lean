import CloudDiagram.Proofs.Generation.Registry

/-!
# Formats that are offered

An emitter is registered under its name in lower case, but a format name is looked up without the blanks
around it. So a name that begins or ends with a blank is offered and leads elsewhere.

* `trim_key_iff`, `key_key`, `key_name`: the key of an emitter, and the key that it is looked up by;
* `chosen?_eq_some_iff`: an emitter is found under its name just when the name is trimmed;
* `Generator.AnswersBy`: a format name is answered by what an emitter makes of components;
* **`listed_format_generates`**: formats that are offered under trimmed names are answered by the last
  emitter of the name;
* `listed_format_unanswered`: a format that is offered under another name.
-/

namespace CloudDiagram

open Text

/-! ## Keys -/

theorem eq_of_length_trimChars {s : List Char} (h : (trimChars s).length = s.length) :
    trimChars s = s := by
  have hsuffix : trimStartChars s <:+ s := List.dropWhile_suffix _
  have hprefix := trimEndChars_prefix (trimStartChars s)
  have hstart : trimStartChars s = s :=
    hsuffix.eq_of_length_le (Nat.le_trans (Nat.le_of_eq h.symm) hprefix.length_le)
  rw [hstart] at hprefix
  rw [trimChars, hstart]
  exact hprefix.eq_of_length_le (Nat.le_of_eq (by rw [← h, trimChars, hstart]))

theorem trim_eq_self_iff {s : String} : trim s = s ↔ trimChars s.toList = s.toList := by
  rw [trim, ← String.toList_inj, String.toList_ofList]

theorem trim_key_iff {e : Emitter} : trim e.key = e.key ↔ trim e.name = e.name := by
  rw [trim_eq_self_iff, trim_eq_self_iff, Emitter.key, toAsciiLower, String.toList_ofList,
    trimChars_map_asciiLower]
  constructor
  · intro h
    have hlength := congrArg List.length h
    rw [List.length_map, List.length_map] at hlength
    exact eq_of_length_trimChars hlength
  · exact congrArg _

theorem Format.trim_name (f : Format) : trim f.name = f.name := by
  cases f <;> decide

theorem key_name (e : Emitter) : Format.key e.name = trim e.key := by
  simp only [Format.key, Emitter.key, trim, toAsciiLower, String.toList_ofList,
    trimChars_map_asciiLower]

theorem key_key (e : Emitter) : Format.key e.key = trim e.key := by
  simp only [Format.key, Emitter.key, trim, toAsciiLower, String.toList_ofList,
    trimChars_map_asciiLower, map_asciiLower_map_asciiLower]

theorem key_of_lastUnder? {es : List Emitter} {name : String} {e : Emitter}
    (h : lastUnder? es name = some e) : e.key = name := by
  simpa using List.find?_some h

theorem lastUnder?_of_forall_ne {before after : List Emitter} {e : Emitter}
    (h : ∀ later ∈ after, later.key ≠ e.key) :
    lastUnder? (before ++ e :: after) e.key = some e := by
  have hafter : after.reverse.find? (·.key == e.key) = none :=
    List.find?_eq_none.2 fun later hlater hkey => h later (List.mem_reverse.1 hlater) (eq_of_beq hkey)
  rw [lastUnder?, List.reverse_append, List.reverse_cons, List.append_assoc, List.find?_append, hafter,
    Option.none_or]
  exact List.find?_cons_of_pos (beq_self_eq_true e.key)

namespace Generator

/-! ## Looking up what is offered -/

/-- **An emitter is chosen for its key** just when that is trimmed. -/
theorem chosen?_eq_some_iff {registered : List Emitter} {name : String} {e : Emitter}
    (hname : Format.key name = trim e.key) (hlast : lastUnder? registered e.key = some e) :
    chosen? registered name = some e ↔ trim e.key = e.key := by
  unfold chosen?
  dsimp only
  rw [hname]
  constructor
  · intro h
    split at h
    · rename_i hfound
      cases h
      exact (key_of_lastUnder? hfound).symm
    · rename_i f _ _
      rw [key_of_lastUnder? h, Format.trim_name]
    · cases h
  · intro htrim
    rw [htrim, hlast]

/-- **A format name is answered by an emitter**: what it makes of components is the text. -/
def AnswersBy (g : Generator) (name : String) (e : Emitter) : Prop :=
  ∀ nodes now text, nodes ≠ [] → (e.emit ⟨g.config, now⟩ nodes).result = some text → text ≠ "" →
    (g.generate nodes name now).result = text

theorem answersBy_of_lookup {g : Generator} {name : String} {e : Emitter}
    (h : g.lookup name = some e) : g.AnswersBy name e := by
  intro nodes now text hnodes hemit htext
  have hsome : nodes.isEmpty = false := List.isEmpty_eq_false_iff.2 hnodes
  have hfull : text.isEmpty = false := Bool.eq_false_iff.2 fun h => htext (String.isEmpty_iff.1 h)
  rw [result_generate, h]
  dsimp only
  rw [Emitter.answer, hsome, hemit]
  simp only [Bool.false_eq_true, if_false, Option.getD_some, hfull]

/-- **A format that is offered is answered by the last emitter of its name** if the name neither begins
nor ends with a blank, whatever has been registered on top of what is built in: the emitter is looked up
by the name just in this case, and what it makes of components is the text. The same holds of the name
that an emitter has itself, as long as no later one replaces it. -/
theorem listed_format_generates (config : GeneratorConfig) (es : List Emitter) :
    let g := (ofConfig config).withEmitters es
    (∀ name ∈ g.formats, ∃ e, lastUnder? (builtIn ++ es) name = some e ∧
      (g.lookup name = some e ↔ trim name = name) ∧ (trim name = name → g.AnswersBy name e)) ∧
    ∀ before e after, builtIn ++ es = before ++ e :: after →
      (∀ later ∈ after, later.key ≠ e.key) →
      (g.lookup e.name = some e ↔ trim e.name = e.name) ∧
        (trim e.name = e.name → g.AnswersBy e.name e) := by
  intro g
  have hlookup {name : String} {e : Emitter} (hname : Format.key name = trim e.key)
      (hlast : lastUnder? (builtIn ++ es) e.key = some e) :
      g.lookup name = some e ↔ trim e.key = e.key := by
    rw [lookup_withEmitters]
    exact chosen?_eq_some_iff hname hlast
  refine ⟨?_, ?_⟩
  · intro name hlisted
    obtain ⟨e, hlast⟩ := isSome_lastUnder?_iff.2 (mem_formats_iff.1 hlisted)
    obtain rfl := key_of_lastUnder? hlast
    have hiff := hlookup (key_key e) hlast
    exact ⟨e, hlast, hiff, fun htrim => answersBy_of_lookup (hiff.2 htrim)⟩
  · intro before e after hsplit hafter
    have hlast : lastUnder? (builtIn ++ es) e.key = some e := by
      rw [hsplit]
      exact lastUnder?_of_forall_ne hafter
    have hiff := hlookup (key_name e) hlast
    rw [trim_key_iff] at hiff
    exact ⟨hiff, fun htrim => answersBy_of_lookup (hiff.2 htrim)⟩

/-- An emitter that replaces one that is built in, and one whose name is in capitals. -/
def offered : List Emitter :=
  [⟨"JSON", fun _ => "", fun _ _ => pure (some "parts")⟩,
    ⟨"Bill of Materials", fun _ => "", fun _ nodes => pure (nodes.head?.map (·.name))⟩]

theorem listed_format_generates_offered :
    let g := (ofConfig .default).withEmitters offered
    let nodes := [Node.ofKind "a" .server "Web"]
    ("json" ∈ g.formats ∧ trim "json" = "json" ∧ (g.generate nodes "json" ⟨0, 0⟩).result = "parts") ∧
      builtIn ++ offered = (builtIn ++ offered.take 1) ++ offered[1] :: [] ∧
      trim "Bill of Materials" = "Bill of Materials" ∧
      (g.generate nodes "Bill of Materials" ⟨0, 0⟩).result = "Web" := by
  intro g nodes
  obtain ⟨hlisted, hown⟩ := listed_format_generates .default offered
  have hjson : "json" ∈ g.formats := mem_formats_iff.2 ⟨offered[0], by simp [offered], by decide⟩
  have hbill : builtIn ++ offered = (builtIn ++ offered.take 1) ++ offered[1] :: [] := rfl
  obtain ⟨e, hlast, -, hanswers⟩ := hlisted "json" hjson
  cases hlast
  obtain ⟨-, hanswered⟩ := hown _ _ _ hbill (by simp)
  refine ⟨⟨hjson, by decide, ?_⟩, hbill, by decide, ?_⟩
  · exact hanswers (by decide) nodes ⟨0, 0⟩ "parts" (by simp [nodes]) rfl (by decide)
  · exact hanswered (by decide) nodes ⟨0, 0⟩ "Web" (by simp [nodes]) rfl (by decide)

/-- An emitter whose name has blanks around it. -/
def spaced : Emitter := ⟨" custom ", fun _ => "nothing yet", fun _ _ => pure (some "Parts:\n")⟩

/-- **A format that is offered and not found**: its emitter makes a text of the components, but the name
is looked up without the blanks around it. -/
theorem listed_format_unanswered :
    let g := (ofConfig .default).withEmitters [spaced]
    let nodes := [Node.ofKind "a" .server "Web"]
    " custom " ∈ g.formats ∧ lastUnder? (builtIn ++ [spaced]) " custom " = some spaced ∧
      (spaced.emit ⟨.default, ⟨0, 0⟩⟩ nodes).result = some "Parts:\n" ∧
      (g.generate nodes " custom " ⟨0, 0⟩).result = noComponents ∧ noComponents ≠ "Parts:\n" := by
  intro g nodes
  have hlisted : " custom " ∈ g.formats := mem_formats_iff.2 ⟨spaced, by simp, by decide⟩
  refine ⟨hlisted, rfl, rfl, ?_, by decide⟩
  rw [result_generate, lookup_withEmitters]
  rfl

end Generator

end CloudDiagram
