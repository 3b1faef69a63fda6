/-!
# Kinds of components

* `Kind`: the eleven kinds of the catalog, and any other by its raw name;
* `Kind.ofText`, `Kind.text`: a kind from its name and back;
* `Kind.known`: the catalog in the order of the palette;
* `Category`, `Kind.label`, `Kind.description`, `Kind.accent`: how a kind is shown.
-/

namespace CloudDiagram

/-- **The kind of a component.** A name outside the catalog is kept as it is. -/
inductive Kind
  | server
  | database
  | storage
  | loadBalancer
  | vpc
  | cdn
  | security
  | lambda
  | monitoring
  | gateway
  | iam
  | other (raw : String)
  deriving DecidableEq

/-- The groups of the palette. -/
inductive Category
  | compute
  | storage
  | network
  | management
  | unknown
  deriving DecidableEq

/-- The heading of a group. -/
def Category.title : Category → String
  | compute => "Compute"
  | storage => "Storage"
  | network => "Network"
  | management => "Management"
  | unknown => "Other"

namespace Kind

/-- The catalog, in the order of the palette. -/
def known : List Kind :=
  [server, lambda, loadBalancer, database, storage, vpc, gateway, cdn, security, monitoring, iam]

/-- The name of a kind in diagrams and generated text. -/
def text : Kind → String
  | server => "server"
  | database => "database"
  | storage => "storage"
  | loadBalancer => "loadbalancer"
  | vpc => "vpc"
  | cdn => "cdn"
  | security => "security"
  | lambda => "lambda"
  | monitoring => "monitoring"
  | gateway => "gateway"
  | iam => "iam"
  | other raw => raw

/-- **The kind of a name**, which never fails. -/
def ofText (raw : String) : Kind := (known.find? (·.text == raw)).getD (.other raw)

/-- The kind belongs to the catalog. -/
def isKnown : Kind → Bool
  | other _ => false
  | _ => true

/-- The name in the component library. -/
def label : Kind → String
  | server => "EC2 Instance"
  | database => "RDS Database"
  | storage => "S3 Storage"
  | loadBalancer => "Load Balancer"
  | vpc => "VPC"
  | cdn => "CloudFront"
  | security => "Security Group"
  | lambda => "Lambda"
  | monitoring => "CloudWatch"
  | gateway => "Internet Gateway"
  | iam => "IAM Role"
  | other raw => raw

/-- The description in the component library. -/
def description : Kind → String
  | server => "Virtual compute instance"
  | database => "Managed database service"
  | storage => "Object storage service"
  | loadBalancer => "Traffic distribution service"
  | vpc => "Virtual private cloud"
  | cdn => "Content delivery network"
  | security => "Network security rules"
  | lambda => "Serverless compute function"
  | monitoring => "Observability service"
  | gateway => "Network gateway"
  | iam => "Identity and access management"
  | other _ => "Infrastructure component"

/-- The group of a kind. -/
def category : Kind → Category
  | server | lambda | loadBalancer => .compute
  | database | storage => .storage
  | vpc | gateway | cdn | security => .network
  | monitoring | iam => .management
  | other _ => .unknown

/-- The colour class of a kind's badge. -/
def accent : Kind → String
  | server => "bg-blue-600"
  | database => "bg-emerald-600"
  | storage => "bg-amber-600"
  | loadBalancer => "bg-purple-600"
  | vpc => "bg-indigo-600"
  | cdn => "bg-pink-600"
  | security => "bg-red-600"
  | lambda => "bg-orange-600"
  | monitoring => "bg-teal-600"
  | gateway => "bg-cyan-600"
  | iam => "bg-slate-600"
  | other _ => "bg-zinc-600"

end Kind

end CloudDiagram
