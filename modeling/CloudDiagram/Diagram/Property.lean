import CloudDiagram.Json.Value
import CloudDiagram.KeyMap
import CloudDiagram.Notice

/-!
# Properties of components

* `PropertyValue`: a switch, a number or a text;
* `PropertyValue.ofInput`: a value from what was typed into a form;
* `PropertyValue.asWord`, `PropertyValue.asBool`, `PropertyValue.asText`: what a value can serve as;
* `Properties`: values by key.
-/

namespace CloudDiagram

open Text Json

/-- **The value of a property.** -/
inductive PropertyValue
  | bool (b : Bool)
  | number (n : Number)
  | text (s : String)
  deriving DecidableEq

/-- **The properties of a component**, in key order. -/
abbrev Properties := KeyMap PropertyValue

/-- A truth value by its name. -/
def bool? (s : String) : Option Bool :=
  if s = "true" then some true else if s = "false" then some false else none

namespace PropertyValue

/-- **A value from a form entry**: without its outer blanks it may be a truth value or a natural
number of 64 bits, and otherwise it stays the text that was typed. -/
def ofInput (raw : String) : PropertyValue :=
  match bool? (trim raw) with
  | some b => .bool b
  | none =>
    match word? (trim raw) with
    | some w => .number (.ofWord w)
    | none => .text raw

/-- The text of a value. -/
def shown : PropertyValue → String
  | .bool b => if b then "true" else "false"
  | .number n => String.ofList n.chars
  | .text s => s

/-- **The natural number of 64 bits that a value serves as.** A whole number that is too large
serves as the largest. -/
def asWord : PropertyValue → Option UInt64
  | .bool _ => none
  | .number n => n.whole?.map fun k => UInt64.ofNat (min k (UInt64.size - 1))
  | .text s => word? (trim s)

/-- The truth value that a value serves as. -/
def asBool : PropertyValue → Option Bool
  | .bool b => some b
  | .number _ => none
  | .text s => bool? (trim s)

/-- The text that a value serves as; an emptied form field serves as none. -/
def asText : PropertyValue → Option String
  | .text s => if s.isEmpty then none else some s
  | v => some v.shown

/-- A value as JSON. -/
def toJson : PropertyValue → Value
  | .bool b => .bool b
  | .number n => .number n
  | .text s => .string s

/-- The value of a JSON scalar. -/
def ofJson? : Value → Option PropertyValue
  | .bool b => some (.bool b)
  | .number n => some (.number n)
  | .string s => some (.text s)
  | _ => none

/-- Equality of values, where the two floating-point zeros are equal. -/
def same : PropertyValue → PropertyValue → Bool
  | .bool a, .bool b => a == b
  | .number m, .number n => m.same n
  | .text s, .text t => s == t
  | _, _ => false

end PropertyValue

namespace Properties

/-- A property map as a JSON object. -/
def toJson (p : Properties) : Value := .object (p.entries.map fun e => (e.1, e.2.toJson))

/-- Equality of maps by the equality of their values. -/
def same (p q : Properties) : Bool :=
  p.entries.length == q.entries.length &&
    (p.entries.zip q.entries).all fun (a, b) => a.1 == b.1 && a.2.same b.2

/-- What a JSON value counts as when properties are read with leniency: nothing for null, and its
text for a list or an object. -/
def lenientValue? (v : Value) : Option PropertyValue :=
  match v with
  | .null => none
  | .bool b => some (.bool b)
  | .number n => some (.number n)
  | .string s => some (.text s)
  | nested => some (.text nested.compact)

/-- **The lenient reading of an object's members**, the last one of a key counting. -/
def lenient (members : List (String × Value)) : Properties :=
  let last : KeyMap Value := .ofList members
  .ofList (last.entries.filterMap fun e => (lenientValue? e.2).map (e.1, ·))

end Properties

end CloudDiagram
