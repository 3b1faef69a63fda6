import CloudDiagram.Json.Fault
import CloudDiagram.Json.Value
import CloudDiagram.KeyMap

/-!
# JSON as it is written

What a text holds, up to the first fault that stops reading.

* `Written`: a value with its members in the order of the text, and with the faults in it;
* `Written.value`: the value that it denotes, of repeated keys the last;
* `Written.passed`: the fault that stops even one who passes the value over;
* `Written.ofValue`: a value as something written.
-/

namespace CloudDiagram.Json

/-- **A value as it is written.** The list or object in which reading stops has a `stop`, unless the
fault is in its last item. -/
inductive Written
  | null
  | bool (b : Bool)
  | number (n : Number)
  | string (s : String)
  | list (items : List Written) (stop : Option Fault)
  | object (members : List (Except Fault String × Written)) (stop : Option Fault)
  /-- Nothing can be read here. -/
  | broken (fault : Fault)
  /-- A value that cannot be represented, over what is met by one who passes it over. -/
  | unusable (fault : Fault) (inner : Written)

/-- What a fault, if there is one, makes of reading on. -/
def proceed : Option Fault → Except Fault Unit
  | none => .ok ()
  | some f => .error f

mutual

/-- **The value that is denoted**: the members of an object in key order, of a repeated key the
last. -/
def Written.value : Written → Except Fault Value
  | .null => .ok .null
  | .bool b => .ok (.bool b)
  | .number n => .ok (.number n)
  | .string s => .ok (.string s)
  | .list items stop => do
    let vs ← itemValues items
    proceed stop
    return .list vs
  | .object members stop => do
    let kvs ← memberValues members
    proceed stop
    return .object (KeyMap.ofList kvs).entries
  | .broken f => .error f
  | .unusable f _ => .error f

/-- The values of items. -/
def itemValues : List Written → Except Fault (List Value)
  | [] => .ok []
  | w :: rest => do
    let v ← w.value
    let vs ← itemValues rest
    return v :: vs

/-- The keys and values of members, in the order of the text. -/
def memberValues : List (Except Fault String × Written) → Except Fault (List (String × Value))
  | [] => .ok []
  | (key, w) :: rest => do
    let k ← key
    let v ← w.value
    let kvs ← memberValues rest
    return (k, v) :: kvs

end

mutual

/-- **Passing a value over**: only what breaks the text stops it. -/
def Written.passed : Written → Except Fault Unit
  | .list items stop => do
    itemsPassed items
    proceed stop
  | .object members stop => do
    membersPassed members
    proceed stop
  | .broken f => .error f
  | .unusable _ inner => inner.passed
  | _ => .ok ()

/-- Passing items over. -/
def itemsPassed : List Written → Except Fault Unit
  | [] => .ok ()
  | w :: rest => do
    w.passed
    itemsPassed rest

/-- Passing members over. -/
def membersPassed : List (Except Fault String × Written) → Except Fault Unit
  | [] => .ok ()
  | (_, w) :: rest => do
    w.passed
    membersPassed rest

end

mutual

/-- A value as something written. -/
def Written.ofValue : Value → Written
  | .null => .null
  | .bool b => .bool b
  | .number n => .number n
  | .string s => .string s
  | .list items => .list (writtenItems items) none
  | .object members => .object (writtenMembers members) none

/-- Values as items. -/
def writtenItems : List Value → List Written
  | [] => []
  | v :: rest => Written.ofValue v :: writtenItems rest

/-- Keys and values as members. -/
def writtenMembers : List (String × Value) → List (Except Fault String × Written)
  | [] => []
  | (k, v) :: rest => (.ok k, Written.ofValue v) :: writtenMembers rest

end

end CloudDiagram.Json
