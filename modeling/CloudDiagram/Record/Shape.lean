import CloudDiagram.Record.Mismatch
import CloudDiagram.Diagram.Property
import CloudDiagram.Json.Reader

/-!
# Records

Which data a piece of JSON is expected to hold, and how it is taken out of what is written.

* `Shape`, `Fields`: the description of the data, and `Carrier`: the data;
* `Source`: whether the members come straight from a text or from a value;
* `Shape.decode`: the data, or the first failure in the order of the members.

A record may also be written as the list of its fields in the order of their declaration.
-/

namespace CloudDiagram

open Json

mutual

/-- **What a piece of JSON is expected to hold.** -/
inductive Shape
  | text
  /-- A string or null. -/
  | optionalText
  /-- Any number, as the nearest floating-point number. -/
  | coordinate
  /-- A natural number of 64 bits. -/
  | count
  /-- Properties; null is an empty map and no value is refused. -/
  | lenientProperties
  /-- Properties, each a scalar other than null. -/
  | properties
  | sequence (item : Shape)
  | record (name : String) (fields : Fields)

/-- The fields of a record, in the order of their declaration. -/
inductive Fields
  | nil
  | cons (name : String) (required : Bool) (shape : Shape) (rest : Fields)

end

mutual

/-- **The data of a shape.** -/
@[reducible] def Shape.Carrier : Shape → Type
  | .text => String
  | .optionalText => Option String
  | .coordinate => Binary64
  | .count => Nat
  | .lenientProperties => Properties
  | .properties => Properties
  | .sequence item => List item.Carrier
  | .record _ fields => fields.Carrier

/-- The data of fields; a field that may be left out is optional. -/
@[reducible] def Fields.Carrier : Fields → Type
  | .nil => Unit
  | .cons _ true shape rest => shape.Carrier × rest.Carrier
  | .cons _ false shape rest => Option shape.Carrier × rest.Carrier

end

/-- What has been read of a record so far. -/
@[reducible] def Fields.Slots : Fields → Type
  | .nil => Unit
  | .cons _ _ shape rest => Option shape.Carrier × rest.Slots

namespace Fields

/-- Nothing has been read. -/
def noSlots : (fields : Fields) → fields.Slots
  | .nil => ()
  | .cons _ _ _ rest => (none, rest.noSlots)

/-- The number of fields. -/
def count : Fields → Nat
  | .nil => 0
  | .cons _ _ _ rest => rest.count + 1

/-- **The data of a record** of which everything has been read; the first required field that is
left out is missing. -/
def finish : (fields : Fields) → fields.Slots → Except Failure fields.Carrier
  | .nil, () => .ok ()
  | .cons name true _ rest, (slot, slots) =>
    match slot with
    | none => unfit (.missingField name)
    | some a => do
      let others ← rest.finish slots
      return (a, others)
  | .cons _ false _ rest, (slot, slots) => do
    let others ← rest.finish slots
    return (slot, others)

end Fields

/-- **Where the members come from.** In a text the list that is a record has to end where the
fields end; in a value its length is blamed. -/
inductive Source
  | text
  | value
  deriving DecidableEq

/-- How a list that is a record has to end after its last field. In a text any other character there is
surplus, and so is a comma that nothing follows. -/
def closeRecord (source : Source) (length : Nat) (surplus : List Written) (stop : Option Fault) :
    Except Failure Unit :=
  match surplus, stop with
  | [], none => .ok ()
  | [], some f =>
    .error (.fault (if f.cause = .endOfValue ∨ f.cause = .expectedCommaOrBracket then
      .trailingCharacters else f.cause))
  | _ :: _, _ =>
    match source with
    | .text => .error (.fault .trailingCharacters)
    | .value => unfit (.invalidLength length "fewer elements in array")

/-- The values of members, in the order of the text. -/
def propertyEntries :
    List (Except Fault String × Written) → Except Failure (List (String × PropertyValue))
  | [] => .ok []
  | (key, w) :: rest => do
    let k ← orFault key
    let v ← orFault w.value
    match PropertyValue.ofJson? v with
    | none => unfit .noPropertyValue
    | some p => do
      let others ← propertyEntries rest
      return (k, p) :: others

mutual

/-- **The data of a shape** in what is written. -/
def Shape.decode (source : Source) : (shape : Shape) → Written → Except Failure shape.Carrier
  | .text, w =>
    match w with
    | .string s => .ok s
    | _ => .error (.ofWritten "a string" w)
  | .optionalText, w =>
    match w with
    | .null => .ok none
    | .string s => .ok (some s)
    | _ => .error (.ofWritten "a string" w)
  | .coordinate, w =>
    match w with
    | .number n => .ok n.toBinary64
    | _ => .error (.ofWritten "f64" w)
  | .count, w =>
    match w with
    | .number (.integer i _) =>
      if 0 ≤ i then .ok i.toNat else unfit (.invalidValue (.integer i) "usize")
    | _ => .error (.ofWritten "usize" w)
  | .lenientProperties, w =>
    match w with
    | .null => .ok .empty
    | .object members stop => do
      let entries ← orFault (memberValues members)
      orFault (proceed stop)
      return Properties.lenient entries
    | _ => .error (.ofWritten "a map" w)
  | .properties, w =>
    match w with
    | .object members stop => do
      let entries ← propertyEntries members
      orFault (proceed stop)
      return KeyMap.ofList entries
    | _ => .error (.ofWritten "a map" w)
  | .sequence item, w =>
    match w with
    | .list items stop => do
      let data ← items.mapM (Shape.decode source item)
      orFault (proceed stop)
      return data
    | _ => .error (.ofWritten "a sequence" w)
  | .record name fields, w =>
    match w with
    | .list items stop => do
      let (data, surplus) ← Fields.decodeItems source fields 0
        ("struct " ++ name ++ " with " ++ toString fields.count ++ " elements") stop items
      closeRecord source items.length surplus stop
      return data
    | .object members stop => do
      let slots ← members.foldlM (fun slots (key, w) => do
        let k ← orFault key
        Fields.accept source fields slots k w) fields.noSlots
      orFault (proceed stop)
      fields.finish slots
    | _ => .error (.ofWritten ("struct " ++ name) w)

/-- A member of a record: a field that has not been read yet, or one that is not known and passed
over. -/
def Fields.accept (source : Source) :
    (fields : Fields) → fields.Slots → String → Written → Except Failure fields.Slots
  | .nil, (), _, w => orFault w.passed
  | .cons name _ shape rest, (slot, slots), key, w =>
    if key = name then
      match slot with
      | some _ => unfit (.duplicateField name)
      | none => do
        let a ← Shape.decode source shape w
        return (some a, slots)
    else do
      let others ← Fields.accept source rest slots key w
      return (slot, others)

/-- The fields of a record that is written as a list, and the items that are left. -/
def Fields.decodeItems (source : Source) (fields : Fields) (index : Nat) (expected : String)
    (stop : Option Fault) (items : List Written) :
    Except Failure (fields.Carrier × List Written) :=
  match fields with
  | .nil => .ok ((), items)
  | .cons _ true shape rest =>
    match items with
    | [] => do
      orFault (proceed stop)
      unfit (.invalidLength index expected)
    | w :: more => do
      let a ← Shape.decode source shape w
      let (others, surplus) ← Fields.decodeItems source rest (index + 1) expected stop more
      return ((a, others), surplus)
  | .cons _ false shape rest =>
    match items with
    | [] => do
      orFault (proceed stop)
      let (others, surplus) ← Fields.decodeItems source rest (index + 1) expected stop []
      return ((none, others), surplus)
    | w :: more => do
      let a ← Shape.decode source shape w
      let (others, surplus) ← Fields.decodeItems source rest (index + 1) expected stop more
      return ((some a, others), surplus)

end

/-- **The data of a shape straight from a text.** -/
def Shape.ofText (shape : Shape) (text : List Char) : Except Failure shape.Carrier := do
  let d := Document.ofText text
  let data ← shape.decode .text d.content
  orFault (proceed d.trailing)
  return data

/-- **The data of a shape from a value**, whose members are visited in key order. -/
def Shape.ofValue (shape : Shape) (v : Value) : Except Failure shape.Carrier :=
  shape.decode .value (.ofValue v)

/-- Properties straight from a text. -/
def Properties.ofText (text : String) : Except Failure Properties :=
  Shape.properties.ofText text.toList

/-- **The value of a property straight from a text.** -/
def PropertyValue.ofText (text : String) : Except Failure PropertyValue := do
  let d := Document.ofText text.toList
  let v ← orFault d.content.value
  match PropertyValue.ofJson? v with
  | none => unfit .noPropertyValue
  | some p => do
    orFault (proceed d.trailing)
    return p

end CloudDiagram
