import CloudDiagram.Json.Written
import CloudDiagram.Text.Quoted

/-!
# What does not fit

* `Found`, `Mismatch`: data that is well formed but not what was expected;
* `Mismatch.message`: its wording;
* `Failure`: a mismatch, or a fault of the text.
-/

namespace CloudDiagram

open Json

/-- What was found where something else was expected. -/
inductive Found
  | null
  | bool (b : Bool)
  | integer (i : Int)
  /-- A floating-point number, by its text. -/
  | float (text : String)
  | string (s : String)
  | sequence
  | map
  deriving DecidableEq

/-- The wording of what was found. -/
def Found.text : Found → String
  | null => "null"
  | bool b => "boolean `" ++ (if b then "true" else "false") ++ "`"
  | integer i => "integer `" ++ String.ofList (Text.integer i) ++ "`"
  | float text => "floating point `" ++ text ++ "`"
  | string s => "string " ++ Text.quote s
  | sequence => "sequence"
  | map => "map"

/-- **Why data does not fit.** -/
inductive Mismatch
  | invalidType (found : Found) (expected : String)
  | invalidValue (found : Found) (expected : String)
  | invalidLength (length : Nat) (expected : String)
  | missingField (name : String)
  | duplicateField (name : String)
  | unknownField (name : String) (known : List String)
  | unknownVariant (name : String) (known : List String)
  | noPropertyValue
  deriving DecidableEq

/-- Names between backquotes, with commas. -/
def quotedNames (names : List String) : String :=
  String.intercalate ", " (names.map fun n => "`" ++ n ++ "`")

/-- **The wording of a mismatch.** -/
def Mismatch.message : Mismatch → String
  | invalidType found expected => "invalid type: " ++ found.text ++ ", expected " ++ expected
  | invalidValue found expected => "invalid value: " ++ found.text ++ ", expected " ++ expected
  | invalidLength length expected =>
    "invalid length " ++ toString length ++ ", expected " ++ expected
  | missingField name => "missing field `" ++ name ++ "`"
  | duplicateField name => "duplicate field `" ++ name ++ "`"
  | unknownField name known =>
    "unknown field `" ++ name ++ "`, expected one of " ++ quotedNames known
  | unknownVariant name known =>
    "unknown variant `" ++ name ++ "`, expected one of " ++ quotedNames known
  | noPropertyValue => "data did not match any variant of untagged enum PropertyValue"

/-- **Why a text does not give the data that is expected.** -/
inductive Failure
  | mismatch (m : Mismatch)
  | fault (cause : Cause)
  deriving DecidableEq

/-- The wording of a failure. -/
def Failure.message : Failure → String
  | mismatch m => m.message
  | fault cause => cause.text

/-- What a JSON number counts as when it is not expected. -/
def Found.ofNumber : Number → Found
  | .integer i _ => .integer i
  | .float x h => .float (String.ofList (Number.float x h).chars)

/-- What a JSON value counts as when it is not expected. -/
def Found.ofValue : Value → Found
  | .null => .null
  | .bool b => .bool b
  | .number n => .ofNumber n
  | .string s => .string s
  | .list _ => .sequence
  | .object _ => .map

/-- **The failure of something written** where something else is expected. -/
def Failure.ofWritten (expected : String) : Written → Failure
  | .null => .mismatch (.invalidType .null expected)
  | .bool b => .mismatch (.invalidType (.bool b) expected)
  | .number n => .mismatch (.invalidType (.ofNumber n) expected)
  | .string s => .mismatch (.invalidType (.string s) expected)
  | .list _ _ => .mismatch (.invalidType .sequence expected)
  | .object _ _ => .mismatch (.invalidType .map expected)
  | .broken f => .fault f.cause
  | .unusable f _ => .fault f.cause

/-- A fault as a failure. -/
def orFault {α : Type} : Except Fault α → Except Failure α
  | .ok a => .ok a
  | .error f => .error (.fault f.cause)

/-- A mismatch as a failure. -/
def unfit {α : Type} (m : Mismatch) : Except Failure α := .error (.mismatch m)

end CloudDiagram
