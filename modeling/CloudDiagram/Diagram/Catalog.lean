import CloudDiagram.Diagram.Kind
import CloudDiagram.Diagram.Property

/-!
# The property catalog

Which properties a component of a kind has, how they are edited and what they are without an entry.

* `Input`, `PropertySpec`: one property of a form;
* `Kind.schema`: the properties of a kind;
* `PropertySpec.resolveText`, `resolveWord`, `resolveBool`: a property, or its default;
* `Kind.defaults`: what a new component has.
-/

namespace CloudDiagram

open Text

/-- **How a property is edited.** -/
inductive Input
  | select (options : List String)
  | number
  | boolean
  | text

/-- **A property of a form.** -/
structure PropertySpec where
  key : String
  label : String
  input : Input
  default : String

namespace PropertySpec

/-- The default as a value: a truth value for a switch, else its text. -/
def defaultValue (spec : PropertySpec) : PropertyValue :=
  match spec.input with
  | .boolean => .bool (spec.default == "true")
  | _ => .text spec.default

/-- **The text of a property.** -/
def resolveText (spec : PropertySpec) (p : Properties) : String :=
  ((p.get? spec.key).bind (·.asText)).getD spec.default

/-- The warning that a value does not serve. -/
def unfit (spec : PropertySpec) (what : String) (v : PropertyValue) (default : String) :
    Noted Unit :=
  .say .warning ("Property '" ++ spec.key ++ "' has " ++ what ++ " value '" ++ v.shown ++
    "', using default " ++ default)

/-- The default as a number, zero if it is none. -/
def defaultWord (spec : PropertySpec) : UInt64 := (word? spec.default).getD 0

/-- **The number of a property**, with a warning where the default stands in for a value. -/
def resolveWord (spec : PropertySpec) (p : Properties) : Noted UInt64 :=
  match p.get? spec.key with
  | none => pure spec.defaultWord
  | some v =>
    match v.asWord with
    | some n => pure n
    | none => do
      spec.unfit "non-numeric" v (toString spec.defaultWord.toNat)
      return spec.defaultWord

/-- **The truth value of a property**, with a warning where the default stands in for a value. -/
def resolveBool (spec : PropertySpec) (p : Properties) : Noted Bool :=
  let default := spec.default == "true"
  match p.get? spec.key with
  | none => pure default
  | some v =>
    match v.asBool with
    | some b => pure b
    | none => do
      spec.unfit "non-boolean" v (if default then "true" else "false")
      return default

end PropertySpec

/-! ## The catalog -/

/-- The size of a server. -/
def instanceType : PropertySpec :=
  ⟨"instanceType", "Instance Type", .select ["t3.micro", "t3.small", "t3.medium", "t3.large"],
    "t3.micro"⟩

/-- Where a server runs. -/
def region : PropertySpec :=
  ⟨"region", "Region", .select ["us-east-1", "us-west-2", "eu-west-1", "ap-southeast-1"],
    "us-east-1"⟩

/-- The disk of a server, in gigabytes. -/
def storageSize : PropertySpec := ⟨"storage", "Storage (GB)", .number, "20"⟩

/-- The engine of a database. -/
def engine : PropertySpec :=
  ⟨"engine", "Database Engine", .select ["mysql", "postgres", "mariadb", "oracle"], "mysql"⟩

/-- The size of a database. -/
def instanceClass : PropertySpec :=
  ⟨"instanceClass", "Instance Class", .select ["db.t3.micro", "db.t3.small", "db.t3.medium"],
    "db.t3.micro"⟩

/-- Whether a database has a standby in another zone. -/
def multiZone : PropertySpec := ⟨"multiAZ", "Multi-AZ Deployment", .boolean, "false"⟩

/-- What a function is run by. -/
def runtime : PropertySpec :=
  ⟨"runtime", "Runtime", .select ["nodejs14.x", "python3.9"], "nodejs14.x"⟩

/-- The memory of a function, in megabytes. -/
def memorySize : PropertySpec := ⟨"memorySize", "Memory Size (MB)", .number, "128"⟩

/-- **The properties of a kind**, in the order of the form. -/
def Kind.schema : Kind → List PropertySpec
  | .server => [instanceType, region, storageSize]
  | .database => [engine, instanceClass, multiZone]
  | .lambda => [runtime, memorySize]
  | _ => []

/-- **The properties of a new component.** -/
def Kind.defaults (k : Kind) : Properties :=
  .ofList (k.schema.map fun spec => (spec.key, spec.defaultValue))

end CloudDiagram
