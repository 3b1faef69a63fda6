import CloudDiagram.Record.Mismatch
import CloudDiagram.Text.Blank

/-!
# Output formats

* `Format`: the formats that are built in;
* `Format.ofText`: a format by one of its names, or `UnknownFormat`;
* `Format.ofName`: a format by its exact name.
-/

namespace CloudDiagram

open Text

/-- **An output format.** -/
inductive Format
  | terraform
  | yaml
  | json
  deriving DecidableEq

namespace Format

/-- The formats, in the order in which they are offered. -/
def all : List Format := [terraform, yaml, json]

/-- The format of a new workspace. -/
def default : Format := terraform

/-- The name under which a format is registered. -/
def name : Format → String
  | terraform => "terraform"
  | yaml => "yaml"
  | json => "json"

/-- The name in a menu. -/
def label : Format → String
  | terraform => "Terraform"
  | yaml => "YAML"
  | json => "JSON"

/-- The extension of a file. -/
def extension : Format → String
  | terraform => "tf"
  | yaml => "yml"
  | json => "json"

/-- The suggested name of a file. -/
def fileName (f : Format) : String := "infrastructure." ++ f.extension

/-- A format by its name or one of its short names, in lower case. -/
def ofAlias? : String → Option Format
  | "terraform" | "tf" => some terraform
  | "yaml" | "yml" | "kubernetes" | "k8s" => some yaml
  | "json" => some json
  | _ => none

/-- **A name that no format has**, as it was looked up. -/
structure UnknownFormat where
  key : String
  deriving DecidableEq

/-- The wording of an unknown name. -/
def UnknownFormat.message (e : UnknownFormat) : String :=
  "Unknown format '" ++ e.key ++ "'; expected one of terraform, yaml, json"

/-- The key under which a format name is looked up: without outer blanks and in lower case. -/
def key (raw : String) : String := toAsciiLower (trim raw)

/-- **A format by a name** as a person types it. -/
def ofText (raw : String) : Except UnknownFormat Format :=
  match ofAlias? (key raw) with
  | some f => .ok f
  | none => .error ⟨key raw⟩

/-- A format by its exact name, as it stands in a document. -/
def ofName (raw : String) : Except Mismatch Format :=
  match all.find? (·.name == raw) with
  | some f => .ok f
  | none => .error (.unknownVariant raw (all.map name))

end Format

end CloudDiagram
