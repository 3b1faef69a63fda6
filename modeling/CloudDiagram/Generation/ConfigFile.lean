import CloudDiagram.Files.Tree
import CloudDiagram.Generation.Config
import CloudDiagram.Notice
import CloudDiagram.Toml.Reader

/-!
# Configuration files

* `ConfigError`: why a configuration cannot be taken;
* `GeneratorConfig.ofToml`: the configuration of a file's text;
* `GeneratorConfig.load`: the configuration of a file, or the default one.
-/

namespace CloudDiagram

/-- **Why a configuration cannot be taken**: the file cannot be read, it is malformed, or what it
says does not fit. -/
inductive ConfigError
  | unreadable (path : String) (reason : String)
  | malformed
  | unfit (mismatch : Mismatch)

/-- The wording of an error. -/
def ConfigError.message : ConfigError → String
  | unreadable path reason => "Could not read configuration file '" ++ path ++ "': " ++ reason
  | malformed => "Configuration parsing failed: TOML parse error"
  | unfit m => "Configuration parsing failed: " ++ m.message

namespace GeneratorConfig

/-- **The configuration of a file's text.** -/
def ofToml (text : String) : Except ConfigError GeneratorConfig :=
  match Toml.readFile? text with
  | none => .error .malformed
  | some entries => (ofEntries entries).mapError .unfit

/-- The configuration of a file. -/
def ofFile (files : FileTree) (path : String) : Except ConfigError GeneratorConfig :=
  match files.readText (.ofText path) with
  | .error e => .error (.unreadable path e.message)
  | .ok text => ofToml text

/-- **The configuration of a file**, or the default one where no file is named. -/
def load (files : FileTree) : Option String → Noted (Except ConfigError GeneratorConfig)
  | none => pure (.ok default)
  | some path => do
    Noted.say .debug ("Loading generator configuration from '" ++ path ++ "'")
    return ofFile files path

end GeneratorConfig

end CloudDiagram
