import CloudDiagram.Text.Blank

/-!
# Command-line arguments

* `OptionSpec`: an option by its long and its short name;
* `Matches`: the options and the plain arguments that have been read;
* `scan`: the arguments of a command, up to the name of a subcommand.

An option that takes a value has it attached, after an equals sign or right after its letter, or as
the next argument, which then may not look like an option. After a double dash every argument is
plain.

Help is no part of the library: asking for it is refused like any option or command that is not there.
-/

namespace CloudDiagram.Shell

/-- Whether an option stands alone, may be repeated, or takes a value. -/
inductive Arity
  | flag
  | counted
  | value
  deriving DecidableEq

/-- **An option**, with the values that it takes. -/
structure OptionSpec where
  long : String
  short : Option Char
  arity : Arity
  accepts : String → Bool

/-- Why the arguments are not a command. -/
inductive Refusal
  | usage
  /-- Not refused but asked for the version. -/
  | version
  deriving DecidableEq

/-- **What has been read**: options by their long names with their values, and plain arguments. -/
structure Matches where
  options : List (String × String)
  plain : List String

namespace Matches

/-- Before the first argument. -/
def empty : Matches := ⟨[], []⟩

/-- The value of an option. -/
def value? (m : Matches) (long : String) : Option String :=
  (m.options.find? (·.1 == long)).map (·.2)

/-- How often an option was given. -/
def count (m : Matches) (long : String) : Nat := (m.options.filter (·.1 == long)).length

/-- An option was given. -/
def has (m : Matches) (long : String) : Bool := (m.value? long).isSome

/-- One more option. Only a counted one may be repeated. -/
def add (m : Matches) (spec : OptionSpec) (value : String) : Except Refusal Matches :=
  if !spec.accepts value || (spec.arity != .counted && m.has spec.long) then .error .usage
  else .ok { m with options := m.options ++ [(spec.long, value)] }

/-- One more plain argument. -/
def addPlain (m : Matches) (argument : String) : Matches :=
  { m with plain := m.plain ++ [argument] }

end Matches

/-- An argument that is read as an option: a dash and more. -/
def looksLikeOption (argument : String) : Bool :=
  match argument.toList with
  | '-' :: _ :: _ => true
  | _ => false

/-- **What may stand among the arguments**: options, asking for the version, names of subcommands, and
plain arguments. -/
structure Level where
  options : List OptionSpec
  hasVersion : Bool
  subcommands : List String
  takesPlain : Bool

/-- An option with its value attached or in the next argument, and the arguments after it. -/
def takeOption (m : Matches) (spec : OptionSpec) (attached : Option String) (rest : List String) :
    Except Refusal (Matches × List String) :=
  match spec.arity, attached with
  | .value, some value => (m.add spec value).map (·, rest)
  | .value, none =>
    match rest with
    | [] => .error .usage
    | value :: more =>
      if looksLikeOption value then .error .usage else (m.add spec value).map (·, more)
  | _, some _ => .error .usage
  | _, none => (m.add spec "").map (·, rest)

/-- The option of a name, or asking for the version. -/
def takeNamed (level : Level) (m : Matches) (name : List Char) (attached : Option String)
    (rest : List String) : Except Refusal (Matches × List String) :=
  if level.hasVersion && String.ofList name = "version" then
    .error (if attached.isNone then .version else .usage)
  else match level.options.find? (·.long == String.ofList name) with
    | none => .error .usage
    | some spec => takeOption m spec attached rest

/-- An argument after two dashes: a name, and perhaps a value after an equals sign. -/
def takeLong (level : Level) (m : Matches) (text : List Char) (rest : List String) :
    Except Refusal (Matches × List String) :=
  let attached := match text.dropWhile (· != '=') with
    | [] => none
    | _ :: value => some (String.ofList value)
  takeNamed level m (text.takeWhile (· != '=')) attached rest

/-- What is attached to a letter, which may have an equals sign before it. -/
def attachedTo : List Char → Option String
  | [] => none
  | '=' :: value => some (String.ofList value)
  | value => some (String.ofList value)

/-- The letters after one dash. The first one that takes a value takes all that follow. -/
def takeShort (level : Level) (m : Matches) (rest : List String) :
    List Char → Except Refusal (Matches × List String)
  | [] => .ok (m, rest)
  | c :: letters =>
    if level.hasVersion && c = 'V' then .error .version
    else match level.options.find? (·.short == some c) with
      | none => .error .usage
      | some spec =>
        if spec.arity = .value then takeOption m spec (attachedTo letters) rest
        else do
          let next ← m.add spec ""
          takeShort level next rest letters

/-- **The arguments of a command**, at most `fuel` of them, and the subcommand with its own. -/
def scan (level : Level) : Nat → Matches → List String →
    Except Refusal (Matches × Option (String × List String))
  | 0, m, _ => .ok (m, none)
  | _ + 1, m, [] => .ok (m, none)
  | fuel + 1, m, argument :: rest =>
    match argument.toList with
    | ['-', '-'] => .ok ({ m with plain := m.plain ++ rest }, none)
    | '-' :: '-' :: text => do
      let (next, more) ← takeLong level m text rest
      scan level fuel next more
    | '-' :: c :: letters => do
      let (next, more) ← takeShort level m rest (c :: letters)
      scan level fuel next more
    | _ =>
      if level.subcommands.contains argument then .ok (m, some (argument, rest))
      else if level.takesPlain then scan level fuel (m.addPlain argument) rest
      else .error .usage

end CloudDiagram.Shell
