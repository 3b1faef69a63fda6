import CloudDiagram.Generation.Generator
import CloudDiagram.Proofs.KeyMap
import CloudDiagram.Proofs.Notice
import CloudDiagram.Proofs.Text.Trim

/-!
# The registry of emitters

A generator is built by registering emitters one after the other on top of the ones that are built in.

* `Emitter.key`, `lastUnder?`: the name that an emitter is registered under, and the last emitter under
  a name;
* `Generator.withEmitters`: emitters registered one after the other;
* `Emitter.answer`: the text that an emitter gives for components;
* `get?_registry`, `withEmitter_comm`, `mem_formats_iff`: what is registered, and in which order;
* `lookup_ofConfig`: the emitter of a format name where only the ones that are built in are registered;
* **`generate_follows_registry`**: a format name is answered by the last emitter that is registered for
  it.
-/

namespace CloudDiagram

open Text

/-! ## Names of formats -/

theorem Format.key_key (raw : String) : Format.key (Format.key raw) = Format.key raw := by
  simp only [Format.key, toAsciiLower, trim, String.toList_ofList, trimChars_map_asciiLower,
    trimChars_trimChars, map_asciiLower_map_asciiLower]

theorem Format.ofText_key (raw : String) : Format.ofText (Format.key raw) = Format.ofText raw := by
  rw [Format.ofText, Format.ofText, Format.key_key]

theorem Format.key_name (f : Format) : Format.key f.name = f.name := by
  cases f <;> decide

theorem Format.ofText_name (f : Format) : Format.ofText f.name = .ok f := by
  rw [Format.ofText, Format.key_name]
  cases f <;> rfl

/-! ## Emitters by name -/

/-- **The name under which an emitter is registered.** -/
def Emitter.key (e : Emitter) : String := toAsciiLower e.name

/-- **The last one of some emitters under a name.** -/
def lastUnder? (es : List Emitter) (name : String) : Option Emitter :=
  es.reverse.find? (·.key == name)

theorem lastUnder?_cons (e : Emitter) (es : List Emitter) (name : String) :
    lastUnder? (e :: es) name =
      (lastUnder? es name).or (if name = e.key then some e else none) := by
  rw [lastUnder?, List.reverse_cons, List.find?_append, ← lastUnder?]
  by_cases h : name = e.key
  · subst h
    simp
  · simp [h, Ne.symm h]

theorem isSome_lastUnder?_iff {es : List Emitter} {name : String} :
    (∃ e, lastUnder? es name = some e) ↔ ∃ e ∈ es, e.key = name := by
  rw [← Option.isSome_iff_exists, lastUnder?, List.find?_isSome]
  simp only [List.mem_reverse, beq_iff_eq]

/-- The emitters that are built in. -/
def builtIn : List Emitter := Format.all.map Format.emitter

theorem Format.key_emitter (f : Format) : f.emitter.key = f.name := by
  cases f <;> decide

theorem lastUnder?_builtIn_name (f : Format) : lastUnder? builtIn f.name = some f.emitter := by
  cases f <;> rfl

theorem ofText_of_mem_builtIn {e : Emitter} (h : e ∈ builtIn) :
    ∃ f, Format.ofText e.key = .ok f ∧ e = f.emitter := by
  obtain ⟨f, -, rfl⟩ := List.mem_map.1 h
  exact ⟨f, by rw [Format.key_emitter, Format.ofText_name], rfl⟩

/-! ## Registering -/

namespace Generator

/-- **Emitters registered one after the other.** -/
def withEmitters (g : Generator) (es : List Emitter) : Generator := es.foldl withEmitter g

theorem ofConfig_eq (config : GeneratorConfig) :
    ofConfig config = withEmitters ⟨config, .empty⟩ builtIn := by
  rfl

theorem config_withEmitters (g : Generator) (es : List Emitter) :
    (g.withEmitters es).config = g.config := by
  induction es generalizing g with
  | nil => rfl
  | cons e rest ih => exact ih (g.withEmitter e)

/-- **What is registered under a name** is the last emitter under it. -/
theorem get?_registry (g : Generator) (es : List Emitter) (name : String) :
    (g.withEmitters es).registry.get? name = (lastUnder? es name).or (g.registry.get? name) := by
  induction es generalizing g with
  | nil => rfl
  | cons e rest ih =>
    have hnext : (g.withEmitter e).registry.get? name =
        (if name = e.key then some e else none).or (g.registry.get? name) := by
      rw [withEmitter, KeyMap.get?_insert, ← Emitter.key]
      split <;> rfl
    rw [withEmitters, List.foldl_cons, ← withEmitters, ih, hnext, lastUnder?_cons, Option.or_assoc]

theorem get?_registry_ofConfig (config : GeneratorConfig) (es : List Emitter) (name : String) :
    ((ofConfig config).withEmitters es).registry.get? name = lastUnder? (builtIn ++ es) name := by
  rw [ofConfig_eq, withEmitters, withEmitters, ← List.foldl_append, ← withEmitters, get?_registry,
    KeyMap.get?_empty, Option.or_none]

theorem withEmitter_comm (g : Generator) {a b : Emitter} (h : a.key ≠ b.key) :
    (g.withEmitter a).withEmitter b = (g.withEmitter b).withEmitter a :=
  congrArg (Generator.mk g.config) (g.registry.insert_comm h a b)

/-- **The formats that are offered** are the names under which something is registered. -/
theorem mem_formats_iff {config : GeneratorConfig} {es : List Emitter} {name : String} :
    name ∈ ((ofConfig config).withEmitters es).formats ↔ ∃ e ∈ builtIn ++ es, e.key = name := by
  rw [formats, KeyMap.mem_keys_iff, get?_registry_ofConfig, isSome_lastUnder?_iff]

theorem pairwise_formats (g : Generator) : g.formats.Pairwise (· < ·) :=
  List.pairwise_map.2 g.registry.ascending

/-! ## Looking up -/

/-- **The emitter that a format name is answered by**, among registered ones. -/
def chosen? (registered : List Emitter) (formatName : String) : Option Emitter :=
  let key := Format.key formatName
  match lastUnder? registered key, Format.ofText key with
  | some e, _ => some e
  | none, .ok f => lastUnder? registered f.name
  | none, .error _ => none

theorem lookup_withEmitters (config : GeneratorConfig) (es : List Emitter) (formatName : String) :
    ((ofConfig config).withEmitters es).lookup formatName = chosen? (builtIn ++ es) formatName := by
  simp only [lookup, get?_registry_ofConfig, chosen?]
  cases lastUnder? (builtIn ++ es) (Format.key formatName) with
  | some e => rfl
  | none => cases Format.ofText (Format.key formatName) <;> rfl

/-- **What is built in** answers the names that are those of a format, and no other. -/
theorem lookup_ofConfig (config : GeneratorConfig) (formatName : String) :
    (ofConfig config).lookup formatName = (Format.ofText formatName).toOption.map Format.emitter := by
  have hlookup := lookup_withEmitters config [] formatName
  rw [withEmitters, List.foldl_nil, List.append_nil] at hlookup
  rw [hlookup, chosen?, Format.ofText_key]
  cases hfound : lastUnder? builtIn (Format.key formatName) with
  | some e =>
    -- the name of what is built in is the name of its format
    obtain ⟨f, hf, rfl⟩ := ofText_of_mem_builtIn (List.mem_reverse.1 (List.mem_of_find?_eq_some hfound))
    have hkey : f.emitter.key = Format.key formatName := by simpa using List.find?_some hfound
    rw [hkey, Format.ofText_key] at hf
    rw [hf]
    rfl
  | none =>
    cases Format.ofText formatName with
    | error e => rfl
    | ok f => exact lastUnder?_builtIn_name f

end Generator

/-! ## Answers -/

/-- **The text that an emitter gives for components**: that for an empty canvas if there are none or
it fails, and never an empty one. -/
def Emitter.answer (e : Emitter) (context : EmitContext) (nodes : List Node) : String :=
  let text :=
    if nodes.isEmpty then e.skeleton context
    else ((e.emit context nodes).result).getD (e.skeleton context)
  if text.isEmpty then noComponents else text

theorem answer_ne_empty (e : Emitter) (context : EmitContext) (nodes : List Node) :
    e.answer context nodes ≠ "" := by
  unfold Emitter.answer
  generalize (if nodes.isEmpty then _ else _ : String) = text
  dsimp only
  split
  · decide
  · rename_i htext
    exact fun h => htext (by rw [h]; rfl)

namespace Generator

theorem result_render (e : Emitter) (context : EmitContext) (nodes : List Node) :
    (render e context nodes).result =
      if nodes.isEmpty then e.skeleton context
      else ((e.emit context nodes).result).getD (e.skeleton context) := by
  unfold render
  split
  · rfl
  · rw [Noted.result_bind]
    cases (e.emit context nodes).result <;> rfl

theorem result_generate (g : Generator) (nodes : List Node) (formatName : String) (now : Instant) :
    (g.generate nodes formatName now).result =
      match g.lookup formatName with
      | none => noComponents
      | some e => e.answer ⟨g.config, now⟩ nodes := by
  unfold generate
  cases g.lookup formatName with
  | none => rfl
  | some e =>
    dsimp only
    rw [Noted.result_bind, result_render]
    rfl

theorem result_generate_ne_empty (g : Generator) (nodes : List Node) (formatName : String)
    (now : Instant) : (g.generate nodes formatName now).result ≠ "" := by
  have hnone : noComponents ≠ "" := by decide
  rw [result_generate]
  split
  · exact hnone
  · exact answer_ne_empty _ _ _

theorem text_document (g : Generator) (nodes : List Node) (f : Format) (now : Instant) :
    (g.document nodes f now).result.text = (g.generate nodes f.name now).result := by
  rw [document, Noted.result_bind, Noted.result_pure]

/-- **A format name is answered by the last emitter that is registered for it**, whatever has been
registered on top of what is built in: under the name itself, else under the name of the format that it
is a short name of. The answer is never empty. Emitters of different names can be registered in either
order, and the formats that are offered are the names in order, each of them once. Where nothing is
registered on top, the names of a format are answered by this format, and all other names by a
comment. -/
theorem generate_follows_registry (config : GeneratorConfig) (es : List Emitter) :
    (∀ nodes formatName now,
      (((ofConfig config).withEmitters es).generate nodes formatName now).result =
        match chosen? (builtIn ++ es) formatName with
        | none => noComponents
        | some e => e.answer ⟨config, now⟩ nodes) ∧
    (∀ nodes formatName now,
      (((ofConfig config).withEmitters es).generate nodes formatName now).result ≠ "") ∧
    (∀ before a b after, es = before ++ a :: b :: after → a.key ≠ b.key →
      (ofConfig config).withEmitters es =
        (ofConfig config).withEmitters (before ++ b :: a :: after)) ∧
    (((ofConfig config).withEmitters es).formats.Pairwise (· < ·) ∧
      ∀ name, name ∈ ((ofConfig config).withEmitters es).formats ↔
        ∃ e ∈ builtIn ++ es, e.key = name) ∧
    ∀ nodes formatName now, ((ofConfig config).generate nodes formatName now).result =
      match Format.ofText formatName with
      | .ok f => ((ofConfig config).document nodes f now).result.text
      | .error _ => noComponents := by
  refine ⟨?_, ?_, ?_, ⟨pairwise_formats _, ?_⟩, ?_⟩
  · intro nodes formatName now
    rw [result_generate, lookup_withEmitters, config_withEmitters]
    rfl
  · intro nodes formatName now
    exact result_generate_ne_empty _ nodes formatName now
  · rintro before a b after rfl h
    simp only [withEmitters, List.foldl_append, List.foldl_cons, withEmitter_comm _ h]
  · intro name
    exact mem_formats_iff
  · intro nodes formatName now
    rw [result_generate, lookup_ofConfig]
    cases Format.ofText formatName with
    | error e => rfl
    | ok f =>
      dsimp only
      rw [text_document, result_generate, lookup_ofConfig, Format.ofText_name]

/-- An emitter that fails and one without a text. -/
def sketchEmitters : List Emitter :=
  [⟨"TF", fun _ => "nothing yet", fun _ _ => pure none⟩,
    ⟨"Plain", fun _ => "", fun _ _ => pure (some "")⟩]

theorem generate_follows_registry_shadowed :
    let g := (ofConfig .default).withEmitters sketchEmitters
    let nodes := [Node.ofKind "a" .server "Web"]
    Emitter.key sketchEmitters[0] ≠ Emitter.key sketchEmitters[1] ∧
      g = (ofConfig .default).withEmitters [sketchEmitters[1], sketchEmitters[0]] ∧
      (g.generate nodes " tf\n" ⟨0, 0⟩).result = "nothing yet" ∧
      (g.generate nodes "PLAIN" ⟨0, 0⟩).result = noComponents := by
  obtain ⟨hanswers, -, hcomm, -, -⟩ := generate_follows_registry .default sketchEmitters
  have hne : Emitter.key sketchEmitters[0] ≠ Emitter.key sketchEmitters[1] := by decide
  refine ⟨hne, hcomm [] _ _ [] rfl hne, ?_, ?_⟩
  · rw [hanswers]
    rfl
  · rw [hanswers]
    rfl

end Generator

end CloudDiagram
