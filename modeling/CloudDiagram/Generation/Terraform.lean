import CloudDiagram.Generation.Emitter
import CloudDiagram.Generation.Format
import CloudDiagram.Generation.Naming

/-!
# Terraform

Resource files: settings, a provider and variables, then one block or comment for each component.

* `Terraform.skeleton`: the file of an empty canvas;
* `Terraform.resource`: the block of a component;
* `Terraform.emitter`: the whole file.
-/

namespace CloudDiagram.Terraform

/-- The block of settings. -/
def settings (c : GeneratorConfig) : String :=
  lines [
    "terraform \x7b",
    "  required_version = " ++ hclString c.terraformVersion,
    "  required_providers \x7b",
    "    aws = \x7b",
    "      source  = \"hashicorp/aws\"",
    "      version = " ++ hclString c.awsProviderVersion,
    "    \x7d",
    "  \x7d",
    "\x7d"]

/-- The block of a variable. -/
def variableBlock (name description default : String) : String :=
  lines [
    "variable \"" ++ name ++ "\" \x7b",
    "  description = " ++ hclString description,
    "  type        = string",
    "  default     = " ++ hclString default,
    "\x7d"]

/-- The block of the provider. -/
def providerBlock (region : String) : String :=
  lines ["provider \"aws\" \x7b", "  region = " ++ region, "\x7d"]

/-- **The file of an empty canvas.** -/
def skeleton (c : GeneratorConfig) : String :=
  lines [
    "# Terraform Configuration",
    "# Add components to the canvas to generate infrastructure code",
    "",
    settings c,
    "",
    providerBlock (hclString c.awsRegion)]

/-- The block that looks up the image of the servers. -/
def imageLookup : String :=
  lines [
    "data \"aws_ami\" \"ubuntu\" \x7b",
    "  most_recent = true",
    "  owners      = [\"099720109477\"]",
    "",
    "  filter \x7b",
    "    name   = \"name\"",
    "    values = [\"ubuntu/images/hvm-ssd/ubuntu-jammy-22.04-amd64-server-*\"]",
    "  \x7d",
    "\x7d"]

/-- The lines of the tags of a resource. -/
def tagLines (name : String) (c : GeneratorConfig) : List String :=
  ["  tags = \x7b",
    "    Name        = " ++ hclString name,
    "    Environment = var.environment",
    "    ManagedBy   = " ++ hclString c.projectName,
    "  \x7d"]

/-- The version of an engine that the catalog offers. -/
def engineVersion? : String → Option String
  | "mysql" => some "8.0"
  | "postgres" => some "16"
  | "mariadb" => some "10.11"
  | "oracle" => some "19"
  | _ => none

/-- The block of a server. -/
def serverBlock (c : GeneratorConfig) (n : Node) (identifier : String) : Noted String := do
  let size ← storageSize.resolveWord n.properties
  return lines ([
    "resource \"aws_instance\" \"" ++ identifier ++ "\" \x7b",
    "  ami           = data.aws_ami.ubuntu.id",
    "  instance_type = " ++ hclString (instanceType.resolveText n.properties),
    "",
    "  root_block_device \x7b",
    "    volume_size = " ++ toString size.toNat,
    "    volume_type = \"gp3\"",
    "  \x7d",
    ""] ++ tagLines n.displayName c ++ ["\x7d"])

/-- The text with hyphens in the place of underscores. -/
def withHyphens (s : String) : String :=
  String.ofList (s.toList.map fun c => if c == '_' then '-' else c)

/-- The line of the version of an engine, if it is known. -/
def engineVersionLine (engineName : String) : List String :=
  match engineVersion? engineName with
  | some version => ["  engine_version = " ++ hclString version]
  | none => []

/-- The block of a database. -/
def databaseBlock (c : GeneratorConfig) (n : Node) (identifier : String) : Noted String := do
  let engineName := engine.resolveText n.properties
  let standby ← multiZone.resolveBool n.properties
  return lines ([
    "resource \"aws_db_instance\" \"" ++ identifier ++ "\" \x7b",
    "  identifier     = " ++ hclString (n.slug (withHyphens identifier)),
    "  engine         = " ++ hclString engineName] ++
    engineVersionLine engineName ++ [
    "  instance_class = " ++ hclString (instanceClass.resolveText n.properties),
    "",
    "  allocated_storage     = 20",
    "  max_allocated_storage = 100",
    "  storage_type          = \"gp3\"",
    "  storage_encrypted     = true",
    "",
    "  multi_az = " ++ (if standby then "true" else "false"),
    ""] ++ tagLines n.displayName c ++ ["\x7d"])

/-- The comment of a component that has no block. -/
def commentBlock (n : Node) : String :=
  lines [
    "# " ++ commentText n.kind.text ++ " resource",
    "# Configuration for " ++ commentText n.displayName,
    "# Resource type: " ++ commentText n.kind.text]

/-- **The block of a component**, by its number. -/
def resource (c : GeneratorConfig) (n : Node) (index : Nat) : Noted String :=
  match n.kind with
  | .server => serverBlock c n (terraformIdentifier n.kind.text index)
  | .database => databaseBlock c n (terraformIdentifier n.kind.text index)
  | _ => pure (commentBlock n)

/-- The sections before the components. -/
def preamble (c : GeneratorConfig) (nodes : List Node) : List String :=
  [lines [
    "# Generated Terraform Configuration",
    "# Infrastructure as Code for " ++ commentText c.projectName,
    "",
    settings c],
    providerBlock "var.aws_region",
    variableBlock "aws_region" "AWS region" c.awsRegion,
    variableBlock "environment" "Environment name" c.environment] ++
    if nodes.any (fun n => n.kind == .server) then [imageLookup] else []

/-- **The file of components.** -/
def file (c : GeneratorConfig) (nodes : List Node) : Noted String := do
  let blocks ← renderAll (resource c) (numbered nodes)
  return String.intercalate "\n\n" (preamble c nodes ++ blocks) ++ "\n"

/-- The emitter of resource files. -/
def emitter : Emitter where
  name := Format.terraform.name
  skeleton context := skeleton context.config
  emit context nodes := do
    let text ← file context.config nodes
    return some text

end CloudDiagram.Terraform
