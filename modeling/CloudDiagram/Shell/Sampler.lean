import CloudDiagram.Shell.Session

/-!
# Sample diagrams

Diagrams for demonstrations, drawn at random.

* `Draw`: a choice from a source of random numbers;
* `drawNode`, `drawDiagram`: a component and a diagram;
* `SampleError`: why the sampler fails;
* `runSampler`: the arguments of the sampler.
-/

namespace CloudDiagram.Shell

/-- **A choice from a source of random numbers.** -/
abbrev Draw := StateM StdGen

/-- A number between two others. -/
def drawBetween (low high : Nat) : Draw Nat := fun source => randNat source low high

/-- One of some things, or a stand-in where there is none. -/
def drawFrom {α : Type} (choices : List α) (default : α) : Draw α := do
  let i ← drawBetween 0 (choices.length - 1)
  return choices.getD i default

/-- True with a probability between zero and one, to nine places. -/
def drawChance (probability : Binary64) : Draw Bool := do
  let r ← drawBetween 0 (tenTo 9 - 1)
  return match probability with
    | .nan => false
    | .ofRank _ rank _ => r * twoTo 1074 < units rank * tenTo 9

/-- What components are named for. -/
def sampleNames : List String :=
  ["Web", "API", "Worker", "Orders", "Users", "Assets", "Edge", "Auth", "Billing", "Search",
    "Reports", "Queue"]

/-- A coordinate in the cell of a grid. -/
def drawCoordinate (cell size : Nat) : Draw Binary64 := do
  let offset ← drawBetween 0 39999
  return .ofRatio false (cell * size * 1000 + offset) 1000

/-- A value for a property. -/
def drawValue (spec : PropertySpec) : Draw PropertyValue :=
  match spec.input with
  | .select options => do
    let option ← drawFrom options spec.default
    return .text option
  | .number => do
    let n ← drawBetween 1 16
    return .number (.ofWord (UInt64.ofNat (64 * n)))
  | .boolean => do
    let n ← drawBetween 0 1
    return .bool (n == 1)
  | .text => return spec.defaultValue

/-- Values for some properties, put into a map. -/
def drawProperties : List PropertySpec → Properties → Draw Properties
  | [], p => return p
  | spec :: rest, p => do
    let v ← drawValue spec
    drawProperties rest (p.insert spec.key v)

/-- A kind, seldom one outside the catalog where that is wanted. -/
def drawKind (withUnknown : Bool) : Draw Kind := do
  let unknown ← drawBetween 0 9
  if withUnknown && unknown == 0 then return .other "message-queue"
  else drawFrom Kind.known .server

/-- **A component**, in rows of four. -/
def drawNode (withUnknown : Bool) (index : Nat) : Draw Node := do
  let kind ← drawKind withUnknown
  let base ← drawFrom sampleNames "Node"
  let x ← drawCoordinate (index % 4) 220
  let y ← drawCoordinate (index / 4) 160
  let properties ← drawProperties kind.schema kind.defaults
  return {
    id := "node-" ++ toString (index + 1)
    kind
    name := base ++ " " ++ kind.label
    label := some kind.label
    position := ⟨x, y⟩
    properties }

/-- Connections from components to the ones after them. -/
def drawEdges (linkChance : Binary64) : List Node → Draw (List Connection)
  | a :: b :: rest => do
    let linked ← drawChance linkChance
    let others ← drawEdges linkChance (b :: rest)
    return if linked then .between a.id b.id :: others else others
  | _ => return []

/-- **A diagram** of a number of components. -/
def drawDiagram (request : SampleRequest) (count : Nat) : Draw Diagram := do
  let nodes ← (List.range count).mapM (drawNode request.withUnknown)
  let edges ← drawEdges request.linkChance nodes
  return ⟨nodes, edges⟩

/-- **Why the sampler fails.** -/
inductive SampleError
  | emptyRange (fewest most : Nat)
  | notAChance
  | unwritable (error : FileError)

/-- The wording of a failure; the file system is quoted with all that it says. -/
def SampleError.message : SampleError → String
  | emptyRange fewest most =>
    "--min (" ++ toString fewest ++ ") cannot be greater than --max (" ++ toString most ++ ")"
  | notAChance => "--link-chance must be between 0.0 and 1.0"
  | unwritable e =>
    let opening := match e.code? with
      | some code => "Os \x7b code: " ++ toString code ++ ", "
      | none => "Error \x7b "
    opening ++ "kind: " ++ e.sort ++ ", message: " ++ Text.quote e.reason ++ " \x7d"

/-- The diagram of a request drawn and written. -/
def writeSample (files : FileTree) (request : SampleRequest) (source : StdGen) : Outcome :=
  let (count, source) := (drawBetween request.fewest request.most).run source
  let (d, _) := (drawDiagram request count).run source
  let progress := "Generating a diagram with " ++ toString count ++ " components...\n" ++
    "-> Generated " ++ toString d.edges.length ++ " connection(s).\n"
  match files.writeText (.ofText request.output) d.exportText with
  | .error e => ⟨1, progress, some (SampleError.unwritable e).message, [], files⟩
  | .ok written =>
    ⟨0, progress ++ "Successfully saved the diagram to '" ++ request.output ++ "'\n", none, [],
      written⟩

/-- **The arguments of the sampler run**, with a source of random numbers. -/
def runSampler (files : FileTree) (source : StdGen) (arguments : List String) : Outcome :=
  match SampleRequest.ofArguments arguments with
  | .error r => refusalOutcome files r
  | .ok request =>
    if request.most < request.fewest then
      ⟨1, "", some (SampleError.emptyRange request.fewest request.most).message, [], files⟩
    else if !request.linkChance.isFraction then
      ⟨1, "", some SampleError.notAChance.message, [], files⟩
    else writeSample files request source

end CloudDiagram.Shell
