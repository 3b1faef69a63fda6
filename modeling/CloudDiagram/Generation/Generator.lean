import CloudDiagram.Generation.Inventory
import CloudDiagram.Generation.Manifest
import CloudDiagram.Generation.Terraform

/-!
# The generator

Emitters under the names of their formats, and the text that one of them gives.

* `Generator`: a configuration and a registry of emitters;
* `Generator.withEmitter`: one more emitter, or another one under a name;
* `Generator.lookup`: the emitter of a format name;
* `Generator.generate`: the text of components, which is never empty;
* `GeneratedDocument`: a text with its format.
-/

namespace CloudDiagram

open Text

/-- The text for a format without an emitter, and in the place of an empty text. -/
def noComponents : String := "# No components on canvas"

/-- The emitter of a format that is built in. -/
def Format.emitter : Format → Emitter
  | .terraform => Terraform.emitter
  | .yaml => Manifest.emitter
  | .json => Inventory.emitter

/-- **A generator.** -/
structure Generator where
  config : GeneratorConfig
  registry : KeyMap Emitter

namespace Generator

/-- A generator with the formats that are built in. -/
def ofConfig (config : GeneratorConfig) : Generator :=
  ⟨config, .ofList (Format.all.map fun f => (f.name, f.emitter))⟩

/-- The generator with an emitter registered under its name in lower case. -/
def withEmitter (g : Generator) (e : Emitter) : Generator :=
  { g with registry := g.registry.insert (toAsciiLower e.name) e }

/-- The names that are registered, in order. -/
def formats (g : Generator) : List String := g.registry.entries.map (·.1)

/-- **The emitter of a format name**: under the name itself, else under the name of the format that
it is a short name of. -/
def lookup (g : Generator) (formatName : String) : Option Emitter :=
  let key := Format.key formatName
  (g.registry.get? key).or
    ((Format.ofText key).toOption.bind fun f => g.registry.get? f.name)

/-- What an emitter makes of components: the text for an empty canvas if there are none or it
fails. -/
def render (e : Emitter) (context : EmitContext) (nodes : List Node) : Noted String :=
  if nodes.isEmpty then pure (e.skeleton context)
  else do
    match ← e.emit context nodes with
    | some text => return text
    | none => do
      Noted.say .error ("Emitter '" ++ e.name ++ "' failed on " ++ toString nodes.length ++
        " components; showing its skeleton")
      return e.skeleton context

/-- **The text of components** in the format of a name, as of some instant. -/
def generate (g : Generator) (nodes : List Node) (formatName : String) (now : Instant) :
    Noted String :=
  match g.lookup formatName with
  | none => do
    Noted.say .warning ("No emitter registered for format '" ++ formatName ++ "'")
    return noComponents
  | some e => do
    let text ← render e ⟨g.config, now⟩ nodes
    Noted.say .debug ("Generated " ++ e.name ++ " output for " ++ toString nodes.length ++
      " components (" ++ toString text.utf8ByteSize ++ " bytes)")
    return if text.isEmpty then noComponents else text

end Generator

/-- **A generated text** and its format. -/
structure GeneratedDocument where
  format : Format
  text : String

namespace GeneratedDocument

/-- The number of lines, an empty last one counted. -/
def lineCount (d : GeneratedDocument) : Nat := d.text.toList.count '\n' + 1

/-- The size in bytes. -/
def byteSize (d : GeneratedDocument) : Nat := d.text.utf8ByteSize

/-- The suggested name of a file. -/
def fileName (d : GeneratedDocument) : String := d.format.fileName

end GeneratedDocument

/-- The document of components in a format. -/
def Generator.document (g : Generator) (nodes : List Node) (format : Format) (now : Instant) :
    Noted GeneratedDocument := do
  let text ← g.generate nodes format.name now
  return ⟨format, text⟩

end CloudDiagram
