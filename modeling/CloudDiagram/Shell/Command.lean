import CloudDiagram.Diagram.Basic
import CloudDiagram.Generation.Format
import CloudDiagram.Number.Reading
import CloudDiagram.Shell.Arguments
import CloudDiagram.Text.Decimal

/-!
# Commands

* `Command`, `Invocation`: what the diagram tool is asked to do;
* `Invocation.ofArguments`: its arguments;
* `SampleRequest`: what the sampler is asked to do, and its arguments.
-/

namespace CloudDiagram.Shell

open Text

/-- **A command of the diagram tool.** -/
inductive Command
  | generate (input : Option String) (format : Format) (output : Option String)
  | validate (input : String)
  | formats
  | add (kind : String) (position : Position)
  | set (id key value : String)
  | rename (id name : String)
  | remove (id : String)
  | connect (source target : String)
  | clear
  | export (output : Option String)
  | «import» (input : String)
  | «show» (format : Format)

/-- **A command with the options that every command takes.** -/
structure Invocation where
  config : Option String
  directory : String
  verbosity : Nat
  command : Command

/-! ## Options -/

/-- A path, which is not empty. -/
def isPath (s : String) : Bool := !s.isEmpty

/-- A floating-point number. -/
def isNumber (s : String) : Bool := (Binary64.ofText? s).isSome

/-- A natural number of 64 bits. -/
def isCount (s : String) : Bool := (word? s).isSome

/-- A format by one of its names. -/
def isFormat (s : String) : Bool := (Format.ofText s).toBool

/-- The options that every command takes. -/
def sharedOptions : List OptionSpec :=
  [⟨"config", some 'c', .value, isPath⟩, ⟨"store", some 's', .value, isPath⟩,
    ⟨"verbose", some 'v', .counted, fun _ => true⟩]

/-- The choice of a format. -/
def formatOption : OptionSpec := ⟨"format", some 'f', .value, isFormat⟩

/-- The choice of a file to write to. -/
def outputOption : OptionSpec := ⟨"output", some 'o', .value, isPath⟩

/-- A coordinate. -/
def coordinateOption (name : String) : OptionSpec := ⟨name, none, .value, isNumber⟩

/-- The commands by name, with the options of their own. -/
def commandOptions : List (String × List OptionSpec) :=
  [("generate", [formatOption, outputOption]), ("validate", []), ("formats", []),
    ("add", [coordinateOption "x", coordinateOption "y"]), ("set", []), ("rename", []),
    ("remove", []), ("connect", []), ("clear", []), ("export", [outputOption]), ("import", []),
    ("show", [formatOption])]

/-- **What may stand before the name of a command.** -/
def toolLevel : Level := ⟨sharedOptions, true, commandOptions.map (·.1), false⟩

/-- **What may stand after the name of a command.** -/
def commandLevel (name : String) : Level :=
  ⟨sharedOptions ++ ((commandOptions.find? (·.1 == name)).map (·.2)).getD [], false, [], true⟩

/-! ## Reading the arguments -/

/-- The format that was chosen, or the default one. -/
def chosenFormat (m : Matches) : Format :=
  (((m.value? "format").bind fun s => (Format.ofText s).toOption)).getD .default

/-- The coordinate that was given, or zero. -/
def chosenCoordinate (m : Matches) (name : String) : Binary64 :=
  ((m.value? name).bind Binary64.ofText?).getD .zero

/-- **The command of a name** with its options and plain arguments, as many as it takes. -/
def command? (name : String) (m : Matches) : Option Command :=
  match name, m.plain with
  | "generate", [] => some (.generate none (chosenFormat m) (m.value? "output"))
  | "generate", [input] =>
    if isPath input then some (.generate (some input) (chosenFormat m) (m.value? "output"))
    else none
  | "validate", [input] => if isPath input then some (.validate input) else none
  | "formats", [] => some .formats
  | "add", [kind] => some (.add kind ⟨chosenCoordinate m "x", chosenCoordinate m "y"⟩)
  | "set", [id, key, value] => some (.set id key value)
  | "rename", [id, name] => some (.rename id name)
  | "remove", [id] => some (.remove id)
  | "connect", [source, target] => some (.connect source target)
  | "clear", [] => some .clear
  | "export", [] => some (.export (m.value? "output"))
  | "import", [input] => if isPath input then some (.import input) else none
  | "show", [] => some (.show (chosenFormat m))
  | _, _ => none

/-- **A command with what stands before and after its name.** An option that every command takes may
stand on either side, and what stands after the name counts. -/
def Invocation.ofMatches (outer inner : Matches) (command : Command) : Invocation where
  config := (inner.value? "config").or (outer.value? "config")
  directory := ((inner.value? "store").or (outer.value? "store")).getD "."
  verbosity := if inner.has "verbose" then inner.count "verbose" else outer.count "verbose"
  command := command

/-- **The invocation of some arguments.** -/
def Invocation.ofArguments (arguments : List String) : Except Refusal Invocation := do
  let fuel := arguments.length + 1
  let (outer, next) ← scan toolLevel fuel .empty arguments
  match next with
  | none => .error .usage
  | some (name, rest) =>
    if !outer.plain.isEmpty then .error .usage
    else do
      let (inner, _) ← scan (commandLevel name) fuel .empty rest
      match command? name inner with
      | none => .error .usage
      | some command => return .ofMatches outer inner command

/-! ## The sampler -/

/-- **What the sampler is asked for.** -/
structure SampleRequest where
  output : String
  fewest : Nat
  most : Nat
  linkChance : Binary64
  withUnknown : Bool

/-- The options of the sampler. -/
def sampleOptions : List OptionSpec :=
  [⟨"output", some 'o', .value, fun _ => true⟩, ⟨"min", none, .value, isCount⟩,
    ⟨"max", none, .value, isCount⟩, ⟨"link-chance", none, .value, isNumber⟩,
    ⟨"with-unknown", none, .flag, fun _ => true⟩]

/-- The number that was given, or a default. -/
def chosenCount (m : Matches) (name : String) (default : Nat) : Nat :=
  (((m.value? name).bind word?).map (·.toNat)).getD default

/-- **The request of some arguments.** -/
def SampleRequest.ofArguments (arguments : List String) : Except Refusal SampleRequest := do
  let (m, _) ← scan ⟨sampleOptions, true, [], false⟩ (arguments.length + 1) .empty arguments
  if !m.plain.isEmpty then .error .usage
  else
    return {
      output := (m.value? "output").getD "generated_diagram.json"
      fewest := chosenCount m "min" 3
      most := chosenCount m "max" 12
      linkChance := ((m.value? "link-chance").bind Binary64.ofText?).getD (.ofRatio false 6 10)
      withUnknown := m.has "with-unknown" }

end CloudDiagram.Shell
