import CloudDiagram.Exchange.Transfer
import CloudDiagram.Proofs.Diagram.Storable
import CloudDiagram.Proofs.Record.Order

/-!
# Documents that are read as they are written

* `Properties.lenient_jsonMap`: the lenient reading of properties keeps scalars;
* **`Connection.ofValue_toJson`**, **`ExchangeNode.ofValue_toJson`**: a connection and a component
  come back from their value in key order.
-/

namespace CloudDiagram

open Json

/-! ## Scalars in key order -/

theorem inKeyOrder_ofBinary64 (x : Binary64) :
    (Value.ofBinary64 x).inKeyOrder = .ofBinary64 x := by
  unfold Value.ofBinary64
  split <;> rfl

theorem inKeyOrder_ofOption (s : Option String) : (Value.ofOption s).inKeyOrder = .ofOption s := by
  cases s <;> rfl

theorem inKeyOrder_propertyValue (v : PropertyValue) : v.toJson.inKeyOrder = v.toJson := by
  cases v <;> rfl

/-! ## Decoding what is written -/

theorem decode_text (s : String) :
    Shape.text.decode .value (.ofValue (Value.string s).inKeyOrder) = .ok s := by
  simp only [Value.inKeyOrder, Written.ofValue, Shape.decode]

theorem decode_string (s : String) :
    Shape.optionalText.decode .value (.ofValue (Value.string s).inKeyOrder) = .ok (some s) := by
  simp only [Value.inKeyOrder, Written.ofValue, Shape.decode]

theorem decode_option (s : Option String) :
    Shape.optionalText.decode .value (.ofValue (Value.ofOption s).inKeyOrder) = .ok s := by
  rw [inKeyOrder_ofOption]
  cases s <;> simp only [Value.ofOption, Written.ofValue, Shape.decode]

theorem decode_coordinate {x : Binary64} (h : x.isFinite = true) :
    Shape.coordinate.decode .value (.ofValue (Value.ofBinary64 x).inKeyOrder) = .ok x := by
  rw [inKeyOrder_ofBinary64]
  simp only [Value.ofBinary64, dif_pos h, Written.ofValue, Shape.decode, Number.toBinary64]

/-- A member that is left out when there is nothing to say fills its field or skips it. -/
theorem Fills.optional {name : String} {required : Bool} {rest : Fields}
    {members : List (String × Value)} {slots : rest.Slots} (s : Option String)
    (h : Fills .value rest members slots) :
    Fills .value (.cons name required .optionalText rest) (optionalMember name s ++ members)
      (s.map some, slots) := by
  cases s with
  | none => exact .skip h
  | some s => exact .take (decode_string s) h

theorem join_map_some (s : Option String) : (s.map some).join = s := by
  cases s <;> rfl

/-! ## Properties -/

/-- The JSON values of properties, by their keys. -/
def Properties.jsonMap (p : Properties) : KeyMap Value :=
  ⟨p.entries.map fun e => (e.1, e.2.toJson), List.pairwise_map.2 p.ascending⟩

theorem Properties.membersInKeyOrder_jsonMap (p : Properties) :
    membersInKeyOrder p.jsonMap.entries = p.jsonMap.entries := by
  rw [membersInKeyOrder_eq_map, jsonMap, List.map_map]
  exact List.map_congr_left fun e _ => Prod.ext rfl (inKeyOrder_propertyValue e.2)

theorem Properties.inKeyOrder_toJson (p : Properties) :
    (Properties.toJson p).inKeyOrder = Properties.toJson p := by
  have hobject : (Value.object p.jsonMap.entries).inKeyOrder = .object p.jsonMap.entries := by
    rw [Value.inKeyOrder, p.membersInKeyOrder_jsonMap, KeyMap.ofList_entries]
  exact hobject

theorem Properties.lenientValue?_toJson (v : PropertyValue) :
    Properties.lenientValue? v.toJson = some v := by
  cases v <;> rfl

theorem Properties.lenient_jsonMap (p : Properties) : Properties.lenient p.jsonMap.entries = p := by
  have hentry : ∀ e : String × PropertyValue,
      (Properties.lenientValue? e.2.toJson).map (e.1, ·) = some e := by
    intro e
    rw [lenientValue?_toJson]
    rfl
  have hentries : p.jsonMap.entries.filterMap
      (fun e => (Properties.lenientValue? e.2).map (e.1, ·)) = p.entries := by
    rw [jsonMap, List.filterMap_map]
    exact (congrArg (List.filterMap · p.entries) (funext hentry)).trans List.filterMap_some
  rw [Properties.lenient, KeyMap.ofList_entries]
  exact (congrArg KeyMap.ofList hentries).trans p.ofList_entries

theorem decode_properties (p : Properties) :
    Shape.lenientProperties.decode .value (.ofValue (Properties.toJson p).inKeyOrder) = .ok p := by
  have hread := memberValues_writtenMembers p.jsonMap.entries
  rw [p.membersInKeyOrder_jsonMap] at hread
  rw [p.inKeyOrder_toJson]
  change Shape.lenientProperties.decode .value (.object (writtenMembers p.jsonMap.entries) none) = _
  simp only [Shape.decode, hread, orFault, proceed, bind, Except.bind, pure, Except.pure,
    Properties.lenient_jsonMap]

/-! ## Connections -/

theorem Connection.ofValue_toJson (c : Connection) :
    Connection.ofValue c.toJson.inKeyOrder = .ok c := by
  have hdecode : Connection.shape.decode .value (.ofValue c.toJson.inKeyOrder) =
      .ok (c.id, c.source, c.target, c.sourceHandle.map some, c.targetHandle.map some,
        c.style.map some, ()) := by
    rw [Connection.toJson, ← List.append_nil (optionalMember "type" c.style)]
    simp only [List.cons_append, List.nil_append, List.append_assoc]
    refine Fills.decode_record (s := (some c.id, some c.source, some c.target,
      c.sourceHandle.map some, c.targetHandle.map some, c.style.map some, ())) ?_ (by decide) rfl
    exact .take (decode_text c.id) <| .take (decode_text c.source) <|
      .take (decode_text c.target) <| .optional c.sourceHandle <| .optional c.targetHandle <|
      .optional c.style .nil
  rw [Connection.ofValue, Shape.ofValue, hdecode]
  simp only [Except.map, Connection.ofCarrier, join_map_some]

/-! ## Components -/

theorem Position.decode_toJson {p : Position} (h : p.isFinite = true) :
    Position.shape.decode .value (.ofValue p.toJson.inKeyOrder) = .ok (p.x, p.y, ()) := by
  obtain ⟨hx, hy⟩ := Bool.and_eq_true_iff.1 h
  refine Fills.decode_record (s := (some p.x, some p.y, ())) ?_ (by decide) rfl
  exact .take (decode_coordinate hx) <| .take (decode_coordinate hy) .nil

/-- What a component holds, as JSON. -/
def ExchangeNode.dataJson (n : ExchangeNode) : Value :=
  .object ([("type", .string n.kind.text)] ++ optionalMember "label" n.label ++
    [("name", .ofOption n.name)] ++ optionalMember "icon" n.icon ++
    [("properties", Properties.toJson n.properties)])

theorem ExchangeNode.decode_dataJson (n : ExchangeNode) :
    ExchangeNode.dataShape.decode .value (.ofValue n.dataJson.inKeyOrder) =
      .ok (n.kind.text, n.label.map some, some n.name, n.icon.map some, some n.properties, ()) := by
  rw [dataJson]
  simp only [List.cons_append, List.nil_append, List.append_assoc]
  refine Fills.decode_record (s := (some n.kind.text, n.label.map some, some n.name,
    n.icon.map some, some n.properties, ())) ?_ (by decide) rfl
  exact .take (decode_text n.kind.text) <| .optional n.label <| .take (decode_option n.name) <|
    .optional n.icon <| .take (decode_properties n.properties) .nil

/-- **A component comes back** from its value in key order. -/
theorem ExchangeNode.ofValue_toJson {n : ExchangeNode} (hposition : n.position.isFinite = true)
    (hkind : n.kind.Canonical) : ExchangeNode.ofValue n.toJson.inKeyOrder = .ok n := by
  have hdecode : ExchangeNode.shape.decode .value (.ofValue n.toJson.inKeyOrder) =
      .ok (n.id, some (n.position.x, n.position.y, ()), some n.renderer,
        (n.kind.text, n.label.map some, some n.name, n.icon.map some, some n.properties, ()),
        ()) := by
    refine Fills.decode_record (s := (some n.id, some (n.position.x, n.position.y, ()),
      some n.renderer, some (n.kind.text, n.label.map some, some n.name, n.icon.map some,
        some n.properties, ()), ())) ?_ (by decide) rfl
    exact .take (decode_text n.id) <| .take (Position.decode_toJson hposition) <|
      .take (decode_text n.renderer) <| .take n.decode_dataJson .nil
  rw [ExchangeNode.ofValue, Shape.ofValue, hdecode]
  simp only [Except.map, ExchangeNode.ofCarrier, join_map_some, Kind.ofText_text_iff.2 hkind,
    Option.getD_some, Option.join_some]
  rfl

end CloudDiagram
