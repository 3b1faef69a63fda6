import CloudDiagram.Proofs.Exchange.Agreement
import CloudDiagram.Proofs.Exchange.RoundTrip
import CloudDiagram.Proofs.Generation.Registry

/-!
# Inventories lose nothing

* `InfrastructureDocument.Writable`: an inventory that its text holds: finite positions, numbers that
  are read back and counts of 64 bits;
* **`InfrastructureDocument.ofText_pretty`**: such an inventory is read from its own text;
* **`generate_json_lossless`**: the text that is generated for components is read as the inventory of
  these components, one entry for each, in order.
-/

namespace CloudDiagram

open Json

/-! ## Numbers and properties -/

theorem inKeyOrder_ofNat (n : Nat) : (Value.ofNat n).inKeyOrder = .ofNat n := rfl

theorem reread_ofNat (n : Nat) : (Value.ofNat n).reread = .ofNat n :=
  congrArg Value.number (Number.readsBack_iff_reread.1 (Number.readsBack_integer _ _))

theorem decode_count {n : Nat} (h : n < UInt64.size) :
    Shape.count.decode .value (.ofValue (Value.ofNat n).inKeyOrder) = .ok n := by
  have hnat : ((UInt64.ofNat n).toNat : Int).toNat = n := by
    rw [Int.toNat_natCast, UInt64.toNat_ofNat_of_lt' h]
  rw [inKeyOrder_ofNat, Value.ofNat, Number.ofWord, Written.ofValue, Shape.decode,
    if_pos (Int.natCast_nonneg _), hnat]

theorem decode_strictProperties (p : Properties) :
    Shape.properties.decode .value (.ofValue (Properties.toJson p).inKeyOrder) = .ok p := by
  have hread := memberValues_writtenMembers p.jsonMap.entries
  rw [p.membersInKeyOrder_jsonMap] at hread
  have hentries : propertyEntries (writtenMembers p.jsonMap.entries) = .ok p.entries := by
    rw [propertyEntries_eq_ok_iff hread, Properties.jsonMap, List.forall₂_map_left_iff,
      List.forall₂_same]
    intro e _
    refine ⟨rfl, ?_⟩
    cases e.2 <;> rfl
  rw [p.inKeyOrder_toJson]
  change Shape.properties.decode .value (.object (writtenMembers p.jsonMap.entries) none) = _
  simp only [Shape.decode, hentries, orFault, proceed, bind, Except.bind, pure, Except.pure,
    KeyMap.ofList_entries]

/-! ## Scalars have no keys -/

theorem distinctKeys_string (s : String) : (Written.ofValue (.string s)).DistinctKeys :=
  List.forall_mem_nil _

theorem distinctKeys_ofNat (n : Nat) : (Written.ofValue (.ofNat n)).DistinctKeys :=
  List.forall_mem_nil _

theorem distinctKeys_ofBinary64 (x : Binary64) : (Written.ofValue (.ofBinary64 x)).DistinctKeys := by
  unfold Value.ofBinary64
  split <;> exact List.forall_mem_nil _

theorem Properties.distinctKeys_toJson (p : Properties) :
    (Written.ofValue (Properties.toJson p)).DistinctKeys := by
  refine distinctKeys_ofValue_object.2 ⟨p.jsonMap.nodup_keys, List.forall_mem_map.2 fun e _ => ?_⟩
  cases e.2 <;> exact List.forall_mem_nil _

/-! ## Entries -/

namespace InfrastructureEntry

/-- **An entry that its text holds.** -/
structure Writable (e : InfrastructureEntry) : Prop where
  position_finite : e.position.isFinite = true
  index_lt : e.metadata.index < UInt64.size
  x_readsBack : e.position.x.ReadsBack
  y_readsBack : e.position.y.ReadsBack
  properties_readBack : ∀ x ∈ e.properties.entries.filterMap fun p => p.2.float?, x.ReadsBack

variable {e : InfrastructureEntry}

/-- The data of an entry. -/
def carrier (e : InfrastructureEntry) : InfrastructureEntry.shape.Carrier :=
  (e.id, e.name, e.kind, (e.position.x, e.position.y, ()), e.properties,
    (e.metadata.createdAt, e.metadata.index, ()), ())

theorem ofCarrier_carrier (e : InfrastructureEntry) : ofCarrier e.carrier = e := rfl

theorem decode_metadata {m : EntryMetadata} (h : m.index < UInt64.size) :
    EntryMetadata.shape.decode .value (.ofValue m.toJson.inKeyOrder) =
      .ok (m.createdAt, m.index, ()) := by
  refine Fills.decode_record (s := (some m.createdAt, some m.index, ())) ?_ (by decide) rfl
  exact .take (decode_text m.createdAt) <| .take (decode_count h) .nil

theorem decode_toJson (h : e.Writable) :
    InfrastructureEntry.shape.decode .value (.ofValue e.toJson.inKeyOrder) = .ok e.carrier := by
  refine Fills.decode_record (s := (some e.id, some e.name, some e.kind,
    some (e.position.x, e.position.y, ()), some e.properties,
    some (e.metadata.createdAt, e.metadata.index, ()), ())) ?_ (by decide) rfl
  exact .take (decode_text e.id) <| .take (decode_text e.name) <| .take (decode_text e.kind) <|
    .take (Position.decode_toJson h.position_finite) <|
    .take (decode_strictProperties e.properties) <| .take (decode_metadata h.index_lt) .nil

theorem reread_toJson (h : e.Writable) : e.toJson.reread = e.toJson := by
  simp only [toJson, EntryMetadata.toJson, Position.toJson, Value.reread, membersReread,
    reread_ofBinary64, reread_ofNat, Properties.reread_toJson, h.x_readsBack.reread_eq,
    h.y_readsBack.reread_eq, Properties.reread_eq h.properties_readBack]

theorem readable_toJson (e : InfrastructureEntry) {depth : Nat} (h : depth + 1 < depthLimit) :
    e.toJson.Readable depth := by
  have hposition : e.position.toJson.Readable (depth + 1) :=
    ⟨h, readable_ofBinary64 _ _, readable_ofBinary64 _ _, trivial⟩
  have hmetadata : e.metadata.toJson.Readable (depth + 1) := ⟨h, trivial, trivial, trivial⟩
  exact ⟨by omega, trivial, trivial, trivial, hposition, readable_properties e.properties h,
    hmetadata, trivial⟩

theorem distinctKeys_toJson (e : InfrastructureEntry) :
    (Written.ofValue e.toJson).DistinctKeys := by
  have hposition : (Written.ofValue e.position.toJson).DistinctKeys := by
    have hkeys : ["x", "y"].Nodup := by decide
    exact distinctKeys_ofValue_object.2 ⟨hkeys, by simp [distinctKeys_ofBinary64]⟩
  have hmetadata : (Written.ofValue e.metadata.toJson).DistinctKeys := by
    have hkeys : ["createdAt", "index"].Nodup := by decide
    exact distinctKeys_ofValue_object.2 ⟨hkeys, by simp [distinctKeys_string, distinctKeys_ofNat]⟩
  have hkeys : ["id", "name", "type", "position", "properties", "metadata"].Nodup := by decide
  exact distinctKeys_ofValue_object.2 ⟨hkeys, by
    simp [distinctKeys_string, hposition, Properties.distinctKeys_toJson, hmetadata]⟩

end InfrastructureEntry

/-! ## Documents -/

namespace InfrastructureDocument

/-- **An inventory that its text holds.** -/
structure Writable (d : InfrastructureDocument) : Prop where
  components_lt : d.metadata.components < UInt64.size
  entries_writable : ∀ e ∈ d.infrastructure, e.Writable

variable {d : InfrastructureDocument}

theorem decode_metadata {m : DocumentMetadata} (h : m.components < UInt64.size) :
    DocumentMetadata.shape.decode .value (.ofValue m.toJson.inKeyOrder) =
      .ok (m.name, m.generatedAt, m.components, ()) := by
  refine Fills.decode_record (s := (some m.name, some m.generatedAt, some m.components, ())) ?_
    (by decide) rfl
  exact .take (decode_text m.name) <| .take (decode_text m.generatedAt) <|
    .take (decode_count h) .nil

theorem decode_entries {entries : List InfrastructureEntry} (h : ∀ e ∈ entries, e.Writable) :
    (Shape.sequence InfrastructureEntry.shape).decode .value
        (.ofValue (Value.list (entries.map InfrastructureEntry.toJson)).inKeyOrder) =
      .ok (entries.map InfrastructureEntry.carrier) := by
  have hitems : writtenItems (itemsInKeyOrder (entries.map InfrastructureEntry.toJson)) =
      entries.map fun e => .ofValue e.toJson.inKeyOrder := by
    induction entries with
    | nil => rfl
    | cons e rest ih =>
      rw [List.map_cons, itemsInKeyOrder, writtenItems, ih (List.forall_mem_cons.1 h).2,
        List.map_cons]
  rw [Value.inKeyOrder]
  refine decode_sequence ?_
  rw [hitems, mapM_eq_ok_iff, List.forall₂_map_left_iff, List.forall₂_map_right_iff,
    List.forall₂_same]
  exact fun e he => InfrastructureEntry.decode_toJson (h e he)

theorem decode_toJson (h : d.Writable) :
    InfrastructureDocument.shape.decode .value (.ofValue d.toJson.inKeyOrder) =
      .ok (d.version, (d.metadata.name, d.metadata.generatedAt, d.metadata.components, ()),
        d.infrastructure.map InfrastructureEntry.carrier, ()) := by
  refine Fills.decode_record (s := (some d.version,
    some (d.metadata.name, d.metadata.generatedAt, d.metadata.components, ()),
    some (d.infrastructure.map InfrastructureEntry.carrier), ())) ?_ (by decide) rfl
  exact .take (decode_text d.version) <| .take (decode_metadata h.components_lt) <|
    .take (decode_entries h.entries_writable) .nil

theorem reread_toJson (h : d.Writable) : d.toJson.reread = d.toJson := by
  have hentries : (d.infrastructure.map InfrastructureEntry.toJson).map Value.reread =
      d.infrastructure.map InfrastructureEntry.toJson := by
    rw [List.map_map]
    exact List.map_congr_left fun e he => InfrastructureEntry.reread_toJson (h.entries_writable e he)
  simp only [toJson, DocumentMetadata.toJson, Value.reread, membersReread, reread_ofNat,
    itemsReread_eq_map, hentries]

theorem readable_toJson (d : InfrastructureDocument) : d.toJson.Readable 0 := by
  have hentries : ∀ v ∈ d.infrastructure.map InfrastructureEntry.toJson, v.Readable 2 :=
    List.forall_mem_map.2 fun e _ => e.readable_toJson (by decide)
  have hmetadata : d.metadata.toJson.Readable 1 := ⟨by decide, trivial, trivial, trivial, trivial⟩
  exact ⟨by decide, trivial, hmetadata, ⟨by decide, itemsReadable_iff.2 hentries⟩, trivial⟩

theorem distinctKeys_toJson (d : InfrastructureDocument) :
    (Written.ofValue d.toJson).DistinctKeys := by
  have hmetadata : (Written.ofValue d.metadata.toJson).DistinctKeys := by
    have hkeys : ["name", "generatedAt", "components"].Nodup := by decide
    exact distinctKeys_ofValue_object.2 ⟨hkeys, by simp [distinctKeys_string, distinctKeys_ofNat]⟩
  have hentries : (Written.ofValue
      (.list (d.infrastructure.map InfrastructureEntry.toJson))).DistinctKeys :=
    distinctKeys_ofValue_list.2 (List.forall_mem_map.2 fun e _ => e.distinctKeys_toJson)
  have hkeys : ["version", "metadata", "infrastructure"].Nodup := by decide
  exact distinctKeys_ofValue_object.2 ⟨hkeys, by simp [distinctKeys_string, hmetadata, hentries]⟩

/-- **An inventory is read from its own text.** -/
theorem ofText_pretty (h : d.Writable) : ofText d.toJson.pretty = .ok d := by
  have hvalue := CloudDiagram.Json.ofText_pretty d.readable_toJson
  have hcontent := content_pretty d.readable_toJson
  rw [reread_toJson h] at hvalue hcontent
  have hkeys : (Document.ofText d.toJson.pretty.toList).content.DistinctKeys := by
    rw [hcontent]
    exact d.distinctKeys_toJson
  have hentries : (d.infrastructure.map InfrastructureEntry.carrier).map
      InfrastructureEntry.ofCarrier = d.infrastructure := by
    rw [List.map_map]
    exact List.map_id'' InfrastructureEntry.ofCarrier_carrier _
  rw [ofText, Shape.ofText_of_value hvalue hkeys (decode_toJson h)]
  simp only [Except.map, ofCarrier, hentries]

end InfrastructureDocument

/-! ## The inventory of components -/

theorem Inventory.isEmpty_text (context : EmitContext) (nodes : List Node) :
    (Inventory.text context nodes).isEmpty = false := by
  rw [Inventory.text, InfrastructureDocument.toJson, Value.pretty, Value.prettyChars]
  refine Bool.eq_false_iff.2 fun h => ?_
  exact List.cons_ne_nil _ _ (String.ofList_eq_empty_iff.1 (String.isEmpty_iff.1 h))

/-- The inventory of an empty canvas is the one of no components. -/
theorem Inventory.answer_emitter (context : EmitContext) (nodes : List Node) :
    Inventory.emitter.answer context nodes = Inventory.text context nodes := by
  have htext : (if nodes.isEmpty then Inventory.text context [] else Inventory.text context nodes) =
      Inventory.text context nodes := by
    cases nodes <;> rfl
  change (if (if nodes.isEmpty then Inventory.text context [] else
    Inventory.text context nodes).isEmpty then noComponents else _) = _
  rw [htext, Inventory.isEmpty_text]
  exact htext

theorem result_generate_json (config : GeneratorConfig) (nodes : List Node) (now : Instant) :
    ((Generator.ofConfig config).generate nodes Format.json.name now).result =
      Inventory.text ⟨config, now⟩ nodes := by
  rw [Generator.result_generate, Generator.lookup_ofConfig, Format.ofText_name]
  exact Inventory.answer_emitter ⟨config, now⟩ nodes

theorem getElem?_build (context : EmitContext) (nodes : List Node) (i : Nat) :
    (InfrastructureDocument.build context nodes).infrastructure[i]? =
      nodes[i]?.map fun n => InfrastructureDocument.entry context.generatedAt.text n (i + 1) := by
  simp only [InfrastructureDocument.build, numbered, List.getElem?_map, List.getElem?_zipIdx,
    Option.map_map, Function.comp_def, Nat.add_comm 1 i]

theorem writable_build {context : EmitContext} {nodes : List Node}
    (hpositions : ∀ n ∈ nodes, n.position.isFinite = true)
    (hfloats : ∀ n ∈ nodes, ∀ x ∈ n.floats, x.ReadsBack) (hsize : nodes.length < UInt64.size) :
    (InfrastructureDocument.build context nodes).Writable := by
  refine ⟨hsize, fun e he => ?_⟩
  obtain ⟨i, hi⟩ := List.mem_iff_getElem?.1 he
  rw [getElem?_build, Option.map_eq_some_iff] at hi
  obtain ⟨n, hn, rfl⟩ := hi
  have hmem := List.mem_of_getElem? hn
  have hlt : i < nodes.length := (List.getElem?_eq_some_iff.1 hn).1
  have hread := hfloats n hmem
  simp only [Node.floats, List.forall_mem_cons] at hread
  exact ⟨hpositions n hmem, Nat.lt_of_le_of_lt hlt hsize, hread.1, hread.2.1, hread.2.2⟩

/-- **The inventory that is generated loses nothing.** Its text is read as a document of as many
components as there are, with one entry for each in order: the id, the name, the kind by its name, the
position and the properties are those of the component, the index counts from one, and all times are
the one time of the document. No list in memory has `2^64` components. -/
theorem generate_json_lossless (config : GeneratorConfig) (now : Instant) (nodes : List Node)
    (hpositions : ∀ n ∈ nodes, n.position.isFinite = true)
    (hfloats : ∀ n ∈ nodes, ∀ x ∈ n.floats, x.ReadsBack) (hsize : nodes.length < UInt64.size) :
    ∃ d, InfrastructureDocument.ofText
        ((Generator.ofConfig config).generate nodes Format.json.name now).result = .ok d ∧
      d.metadata.components = nodes.length ∧ d.metadata.generatedAt = now.text ∧
      d.infrastructure.length = nodes.length ∧
      ∀ (i : Nat) (n : Node), nodes[i]? = some n → ∃ e, d.infrastructure[i]? = some e ∧
        e.id = n.id ∧ e.name = n.name ∧ e.kind = n.kind.text ∧ e.position = n.position ∧
        e.properties = n.properties ∧ e.metadata.index = i + 1 ∧
        e.metadata.createdAt = now.text := by
  refine ⟨.build ⟨config, now⟩ nodes, ?_, ?_, ?_, ?_, fun i n hn => ?_⟩
  · rw [result_generate_json]
    exact InfrastructureDocument.ofText_pretty (writable_build hpositions hfloats hsize)
  · rw [InfrastructureDocument.build]
  · rw [InfrastructureDocument.build]
  · rw [InfrastructureDocument.build, List.length_map, numbered, List.length_zipIdx]
  · refine ⟨InfrastructureDocument.entry now.text n (i + 1), ?_, ?_⟩
    · rw [getElem?_build, hn, Option.map_some]
    · simp only [InfrastructureDocument.entry, and_self]

theorem generate_json_lossless_sketch :
    let nodes := Diagram.sketch.nodes ++ Diagram.sketch.nodes
    (∀ n ∈ nodes, n.position.isFinite = true) ∧ (∀ n ∈ nodes, ∀ x ∈ n.floats, x.ReadsBack) ∧
      nodes.length < UInt64.size ∧
      Instant.ofUnix? 1714566599 1500000000 = some ⟨1714566599, 1500000000⟩ ∧
      ∃ d, InfrastructureDocument.ofText ((Generator.ofConfig .default).generate nodes
          Format.json.name ⟨1714566599, 1500000000⟩).result = .ok d ∧
        d.metadata.components = 4 ∧ d.metadata.generatedAt = "2024-05-01T12:29:60.500Z" := by
  intro nodes
  have hnodes : ∀ n ∈ nodes, n.position.isFinite = true ∧ ∀ x ∈ n.floats, x.ReadsBack := by
    decide +kernel
  have hpositions : ∀ n ∈ nodes, n.position.isFinite = true := fun n hn => (hnodes n hn).1
  have hfloats : ∀ n ∈ nodes, ∀ x ∈ n.floats, x.ReadsBack := fun n hn => (hnodes n hn).2
  have hsize : nodes.length < UInt64.size := by decide
  have hleap : Instant.ofUnix? 1714566599 1500000000 = some ⟨1714566599, 1500000000⟩ := by decide
  have htext : Instant.text ⟨1714566599, 1500000000⟩ = "2024-05-01T12:29:60.500Z" := by decide
  obtain ⟨d, hread, hcomponents, htime, -⟩ :=
    generate_json_lossless .default ⟨1714566599, 1500000000⟩ nodes hpositions hfloats hsize
  exact ⟨hpositions, hfloats, hsize, hleap, d, hread, hcomponents, htime.trans htext⟩

end CloudDiagram
