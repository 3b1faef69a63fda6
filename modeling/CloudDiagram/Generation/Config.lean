import CloudDiagram.Record.Mismatch

/-!
# Configuration

* `GeneratorConfig`: the texts that are put into generated documents;
* `Entry`: a key of a configuration and its text, or what stands in the place of a text;
* `GeneratorConfig.ofEntries`: the configuration of some entries, or the first that does not fit;
* `GeneratorConfig.ofJson`: a configuration as a JSON object or list.
-/

namespace CloudDiagram

open Json

/-- **The texts that are put into generated documents.** -/
structure GeneratorConfig where
  projectName : String
  namespaceName : String
  awsRegion : String
  environment : String
  terraformVersion : String
  awsProviderVersion : String
  deriving DecidableEq

namespace GeneratorConfig

/-- The configuration without any entry. -/
def default : GeneratorConfig :=
  ⟨"InfraGraph", "infragraph", "us-east-1", "dev", ">= 1.0", "~> 5.0"⟩

instance : Inhabited GeneratorConfig := ⟨default⟩

/-- The keys, in the order of their declaration. -/
def keys : List String :=
  ["project_name", "namespace", "aws_region", "environment", "terraform_version",
    "aws_provider_version"]

/-- The texts, in the order of the keys. -/
def texts (c : GeneratorConfig) : List String :=
  [c.projectName, c.namespaceName, c.awsRegion, c.environment, c.terraformVersion,
    c.awsProviderVersion]

/-- The configuration with the text of a key replaced, if there is such a key. -/
def set? (c : GeneratorConfig) (key text : String) : Option GeneratorConfig :=
  match key with
  | "project_name" => some { c with projectName := text }
  | "namespace" => some { c with namespaceName := text }
  | "aws_region" => some { c with awsRegion := text }
  | "environment" => some { c with environment := text }
  | "terraform_version" => some { c with terraformVersion := text }
  | "aws_provider_version" => some { c with awsProviderVersion := text }
  | _ => none

/-- A key and its text, or what was found in the place of a text. -/
abbrev Entry := String × Except Found String

/-- The configuration with one more entry. -/
def accept (c : GeneratorConfig) : Entry → Except Mismatch GeneratorConfig
  | (key, value) =>
    match c.set? key "" with
    | none => .error (.unknownField key keys)
    | some _ =>
      match value with
      | .error found => .error (.invalidType found "a string")
      | .ok text => .ok ((c.set? key text).getD c)

/-- **The configuration of entries**, what they leave out keeping its default, or the first entry
that does not fit. -/
def ofEntries (entries : List Entry) : Except Mismatch GeneratorConfig :=
  entries.foldlM accept default

/-- The text of a JSON string, or what is there instead. -/
def textOf : Value → Except Found String
  | .string s => .ok s
  | v => .error (.ofValue v)

/-- **A configuration as JSON**: an object, or the list of the texts in the order of the keys. -/
def ofJson : Value → Except Mismatch GeneratorConfig
  | .object members => ofEntries (members.map fun (k, v) => (k, textOf v))
  | .list items => do
    let c ← ofEntries (keys.zip (items.map textOf))
    if items.length ≤ keys.length then return c
    else throw (.invalidLength items.length "fewer elements in array")
  | v => .error (.invalidType (.ofValue v) "struct GeneratorConfig")

end GeneratorConfig

end CloudDiagram
