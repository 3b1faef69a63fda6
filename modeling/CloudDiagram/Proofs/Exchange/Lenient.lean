import CloudDiagram.Exchange.Transfer
import CloudDiagram.Proofs.Json.Depth
import CloudDiagram.Proofs.Record.Lenient
import CloudDiagram.Proofs.Record.Surround

/-!
# The properties of components that are read

* `ExchangeNode.ofWritten`: a component straight from a text, or from its value;
* `ExchangeNode.decode_fill`, `ExchangeNode.ofWritten_fill`: a component with its properties left open;
* **`ExchangeNode.only_nulls_are_lost`**: what becomes of the properties of a component, whatever is
  written there.
-/

namespace CloudDiagram

open Json

/-- The fields of a record. -/
def Shape.fields : Shape → Fields
  | .record _ fields => fields
  | _ => .nil

namespace ExchangeNode

/-- **A component that is written**, straight from the text or, as in an import, from its value. -/
def ofWritten : Source → Written → Except Failure ExchangeNode
  | .text, w => (ExchangeNode.shape.decode .text w).map ofCarrier
  | .value, w => (orFault w.value).bind ExchangeNode.ofValue

/-! ## The place of the properties -/

/-- What a component holds, among its fields. -/
def dataField : shape.fields.At "data" true dataShape :=
  .there (by decide) <| .there (by decide) <| .there (by decide) .here

/-- The properties, among the fields of what a component holds. -/
def propertiesField : dataShape.fields.At "properties" false .lenientProperties :=
  .there (by decide) <| .there (by decide) <| .there (by decide) <| .there (by decide) .here

variable {source : Source} {component : Surround "data" 3} {data : Surround "properties" 4}
  {w₀ : Written} {n : ExchangeNode}

/-- A component that is decoded is so with anything else that it may hold. -/
theorem decode_component
    (h : (shape.decode source (component.fill w₀)).map ofCarrier = .ok n) :
    ∃ id position renderer, ∀ w, (shape.decode source (component.fill w)).map ofCarrier =
      (dataShape.decode source w).map fun held => ofCarrier (id, position, renderer, held, ()) := by
  obtain ⟨carrier, hcarrier, -⟩ := map_eq_ok.1 h
  obtain ⟨base, hbase, -⟩ := CloudDiagram.decode_fill dataField component hcarrier
  obtain ⟨held, -, hfinish⟩ := bind_eq_ok.1 ((hbase _).symm.trans hcarrier)
  obtain ⟨_ | id, position, renderer, _, ⟨⟩⟩ := base
  · cases hfinish
  refine ⟨id, position, renderer, fun w => ?_⟩
  have hfill : shape.decode source (component.fill w) = (dataShape.decode source w).bind _ := hbase w
  rw [hfill]
  cases dataShape.decode source w <;> rfl

theorem decode_data {held : dataShape.Carrier}
    (h : dataShape.decode source (data.fill w₀) = .ok held) :
    ∃ kind label name icon,
      (∀ w, dataShape.decode source (data.fill w) =
        (Shape.lenientProperties.decode source w).map fun p =>
          (kind, label, name, icon, some p, ())) ∧
      dataShape.decode source data.without = .ok (kind, label, name, icon, none, ()) := by
  obtain ⟨base, hbase, hwithout⟩ := CloudDiagram.decode_fill propertiesField data h
  obtain ⟨p₀, -, hfinish⟩ := bind_eq_ok.1 ((hbase _).symm.trans h)
  obtain ⟨_ | kind, label, name, icon, _, ⟨⟩⟩ := base
  · cases hfinish
  refine ⟨kind, label, name, icon, fun w => ?_, hwithout rfl⟩
  have hfill : dataShape.decode source (data.fill w) =
      (Shape.lenientProperties.decode source w).bind _ := hbase w
  rw [hfill]
  cases Shape.lenientProperties.decode source w <;> rfl

/-- **A component with its properties left open** is decoded as far as they are. -/
theorem decode_fill
    (h : (shape.decode source (component.fill (data.fill w₀))).map ofCarrier = .ok n) :
    (∀ w, (shape.decode source (component.fill (data.fill w))).map ofCarrier =
      (Shape.lenientProperties.decode source w).map fun p => { n with properties := p }) ∧
    (shape.decode source (component.fill data.without)).map ofCarrier =
      .ok { n with properties := .empty } := by
  obtain ⟨id, position, renderer, hcomponent⟩ := decode_component h
  rw [hcomponent] at h
  obtain ⟨held, hheld, rfl⟩ := map_eq_ok.1 h
  obtain ⟨kind, label, name, icon, hdata, hwithout⟩ := decode_data hheld
  obtain ⟨p₀, -, rfl⟩ := map_eq_ok.1 ((hdata w₀).symm.trans hheld)
  refine ⟨fun w => ?_, ?_⟩
  · rw [hcomponent, hdata]
    cases Shape.lenientProperties.decode source w <;> rfl
  · rw [hcomponent, hwithout]
    rfl

theorem properties_of_decode_lacks {rest : Written} (hlacks : Lacks "properties" 4 rest)
    (h : (shape.decode source (component.fill rest)).map ofCarrier = .ok n) :
    n.properties = .empty := by
  obtain ⟨id, position, renderer, hcomponent⟩ := decode_component h
  rw [hcomponent] at h
  obtain ⟨held, hheld, rfl⟩ := map_eq_ok.1 h
  obtain ⟨base, hfinish⟩ := decode_lacks propertiesField hlacks hheld
  obtain ⟨_ | kind, label, name, icon, _, ⟨⟩⟩ := base
  · cases hfinish
  cases hfinish
  rfl

/-! ## Components that are written -/

theorem orFault_eq_ok {α : Type} {x : Except Fault α} {a : α} : orFault x = .ok a ↔ x = .ok a := by
  cases x <;> simp [orFault]

/-- A component that is read from its value is decoded from what its value holds. -/
theorem exists_component (h : ofWritten .value (component.fill w₀) = .ok n) :
    ∃ (component' : Surround "data" 3) (held : Value), w₀.value = .ok held ∧
      ∀ w v, w.value = .ok v → ofWritten .value (component.fill w) =
        (shape.decode .value (component'.fill (.ofValue v))).map ofCarrier := by
  obtain ⟨whole, hwhole, -⟩ := bind_eq_ok.1 h
  have hwhole := orFault_eq_ok.1 hwhole
  obtain ⟨held, hheld⟩ := exists_value_of_within (component.within_fill w₀) hwhole
  obtain ⟨component', hcomponent, -⟩ := Surround.exists_value hwhole
  refine ⟨component', held, hheld, fun w v hw => ?_⟩
  obtain ⟨outer, houter, hwritten⟩ := hcomponent w v hw
  rw [ofWritten, houter, ← hwritten]
  rfl

/-- **A component that is written, with its properties left open**, is read as far as they are. -/
theorem ofWritten_fill (h : ofWritten source (component.fill (data.fill w₀)) = .ok n) :
    (∀ w v, w.value = .ok v → ofWritten source (component.fill (data.fill w)) =
      (Shape.lenientProperties.decode .text w).map fun p => { n with properties := p }) ∧
    (data.Once → ofWritten source (component.fill data.without) =
      .ok { n with properties := .empty }) := by
  cases source with
  | text =>
    obtain ⟨hfill, hwithout⟩ := decode_fill h
    exact ⟨fun w _ _ => hfill w, fun _ => hwithout⟩
  | value =>
    -- the value of the component is a component with its properties left open, too
    obtain ⟨component', held, hheld, hread⟩ := exists_component h
    obtain ⟨v₀, hv₀⟩ := exists_value_of_within (data.within_fill w₀) hheld
    obtain ⟨data', hdata, hleft⟩ := Surround.exists_value hheld
    have hfill {w : Written} {v : Value} (hw : w.value = .ok v) :
        ofWritten .value (component.fill (data.fill w)) =
          (shape.decode .value (component'.fill (data'.fill (.ofValue v)))).map ofCarrier := by
      obtain ⟨inner, hinner, hwritten⟩ := hdata w v hw
      rw [hread _ inner hinner, hwritten]
    obtain ⟨hopen, hwithout⟩ := decode_fill ((hfill hv₀).symm.trans h)
    refine ⟨fun w v hw => ?_, fun honce => ?_⟩
    · rw [hfill hw, hopen, Shape.lenientProperties.decode_ofValue hw]
    · obtain ⟨inner, hinner, hwritten⟩ := hleft honce
      rw [hread _ inner hinner, hwritten, hwithout]

theorem properties_of_lacks {rest : Written} (hlacks : Lacks "properties" 4 rest)
    (h : ofWritten source (component.fill rest) = .ok n) : n.properties = .empty := by
  cases source with
  | text => exact properties_of_decode_lacks hlacks h
  | value =>
    obtain ⟨component', held, hheld, hread⟩ := exists_component h
    rw [hread rest held hheld] at h
    exact properties_of_decode_lacks (lacks_ofValue hlacks hheld) h

/-! ## What becomes of the properties -/

/-- **Only nulls are lost.** In a text that can be read, whatever stands as the properties of a component
that is valid with other properties `w₀`:

* an object gives the last value of each of its keys, without the nulls, and nothing else is lost;
* null gives no properties, and so does leaving them out;
* a component that is read without any has none, also where it is written as a shorter list;
* the component is refused with anything else. -/
theorem only_nulls_are_lost {text : String} {root : Value} {w : Written}
    (hroot : Value.ofText text.toList = .ok root)
    (hw : Within (component.fill (data.fill w)) (Document.ofText text.toList).content)
    (hvalid : ofWritten source (component.fill (data.fill w₀)) = .ok n) :
    (∀ members stop, w = .object members stop → ∃ values p, memberValues members = .ok values ∧
      p.Keeps values ∧
      ofWritten source (component.fill (data.fill w)) = .ok { n with properties := p }) ∧
    (w = .null → ofWritten source (component.fill (data.fill w)) =
      .ok { n with properties := .empty }) ∧
    (data.Once → ofWritten source (component.fill data.without) =
      .ok { n with properties := .empty }) ∧
    (∀ rest m, Lacks "properties" 4 rest → ofWritten source (component.fill rest) = .ok m →
      m.properties = .empty) ∧
    ((∀ members stop, w ≠ .object members stop) → w ≠ .null →
      ofWritten source (component.fill (data.fill w)) = .error (.ofWritten "a map" w)) := by
  have hwithin : Within w (Document.ofText text.toList).content :=
    (data.within_fill w).trans ((component.within_fill _).trans hw)
  obtain ⟨v, hv, -, -⟩ := readable_of_within hroot hwithin
  obtain ⟨hfill, hwithout⟩ := ofWritten_fill hvalid
  refine ⟨?_, ?_, hwithout, fun rest m hlacks hm => properties_of_lacks hlacks hm, ?_⟩
  · rintro members stop rfl
    cases denotes_of_value hv with
    | @object _ values hvalues =>
      refine ⟨values, .lenient values, hvalues, Properties.lenient_keeps fun e he => ?_, ?_⟩
      · -- every member stands in the text and can be read from a text of its own
        obtain ⟨m, hm, -, hvalue⟩ :=
          exists_mem_of_forall₂ (memberValues_eq_ok_iff.1 hvalues) he
        obtain ⟨u, hu, horder, hread⟩ :=
          readable_of_within hroot ((Within.member hm (.refl m.2)).trans hwithin)
        cases hu.symm.trans hvalue
        exact ⟨horder, hread⟩
      · rw [hfill _ _ hv, Shape.lenientProperties.decode_object .text hvalues]
        rfl
  · rintro rfl
    rw [hfill _ _ hv, Shape.lenientProperties.decode_null]
    rfl
  · intro hobject hnull
    rw [hfill w v hv, Shape.lenientProperties.decode_other .text hnull hobject]
    rfl

/-- Properties with a repeated key, a null and a nested value. -/
def mixedProperties : List (String × Value) :=
  [("k", .number (.ofWord 1)), ("l", .list [.object [("b", .number (.ofWord 2))]]), ("n", .null),
    ("k", .string "v")]

/-- A component with these properties. -/
def mixedComponent : Value :=
  .object [("id", .string "a"),
    ("data", .object [("type", .string "x"), ("properties", .object mixedProperties)])]

theorem only_nulls_are_lost_mixed :
    let component : Surround "data" 3 := .members [("id", .string "a")] [] List.not_mem_nil
    let data : Surround "properties" 4 := .members [("type", .string "x")] [] List.not_mem_nil
    let text := mixedComponent.pretty
    let members := writtenMembers mixedProperties
    let written := component.fill (data.fill (.object members none))
    Value.ofText text.toList = .ok mixedComponent.inKeyOrder ∧
      (Document.ofText text.toList).content = written ∧
      ∃ n, ofWritten .value (component.fill (data.fill .null)) = .ok n ∧
        ∃ values p, memberValues members = .ok values ∧ p.Keeps values ∧
          ofWritten .value written = .ok { n with properties := p } := by
  intro component data text members written
  have hreadable : mixedComponent.Readable 0 := by
    simp [mixedComponent, mixedProperties, Value.Readable, membersReadable, itemsReadable,
      depthLimit]
  have hfloats : mixedComponent.FloatsReadBack := by
    simp [mixedComponent, mixedProperties, Value.FloatsReadBack, memberFloatsReadBack,
      itemFloatsReadBack, Number.ofWord]
  have hreread : mixedComponent.reread = mixedComponent := Value.reread_eq_self hfloats
  have hroot : Value.ofText text.toList = .ok mixedComponent.inKeyOrder := by
    rw [ofText_pretty hreadable, hreread]
  have hcontent : (Document.ofText text.toList).content = written := by
    rw [content_pretty hreadable, hreread]
    rfl
  have hvalid : (ofWritten .value (component.fill (data.fill .null))).isOk = true := by
    decide +kernel
  refine ⟨hroot, hcontent, ?_⟩
  cases hn : ofWritten .value (component.fill (data.fill .null)) with
  | error f =>
    rw [hn] at hvalid
    cases hvalid
  | ok n =>
    have hw : Within written (Document.ofText text.toList).content := by
      rw [hcontent]
      exact .refl written
    exact ⟨n, rfl, (only_nulls_are_lost hroot hw hn).1 members none rfl⟩

end ExchangeNode

end CloudDiagram
