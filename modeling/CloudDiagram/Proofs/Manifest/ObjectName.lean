import CloudDiagram.Proofs.Manifest.Stream
import CloudDiagram.Proofs.Text.Decimal

/-!
# Names of objects

The number of a component stands at the end of the name of its object, where a long name is cut off.

* `Manifest.wholeName`, `Manifest.NameFits`: a name before it is cut off, and that it is not;
* `objectName_injective`: whole names of components with different numbers differ;
* `nameFits_of_isKnown`: the names of the kinds of the catalog are whole;
* **`objects_distinct`**: the objects of a stream differ in kind or name where no name is cut off;
* `objects_collide`: of two components with one long kind they do not.
-/

namespace CloudDiagram.Manifest

open Text Yaml

/-- **The name of the object of a component** before it is cut off. -/
def wholeName (n : Node) (index : Nat) : List Char :=
  labelChars false ((n.kind.text ++ "-" ++ toString index).toList.flatMap lowerChar)

/-- **The name is not cut off.** -/
def NameFits (n : Node) (index : Nat) : Prop := (wholeName n index).length ≤ 63

instance (n : Node) (index : Nat) : Decidable (NameFits n index) :=
  inferInstanceAs (Decidable (_ ≤ _))

variable {n m : Node} {i j : Nat}

/-! ## Whole names -/

theorem isLabelChar_of_mem_numeral {c : Char} (h : c ∈ numeral i) : isLabelChar c = true := by
  rw [isLabelChar, isDigit_of_mem_numeral h, Bool.or_true]

theorem flatMap_lowerChar_numbered (kind : String) (i : Nat) :
    (kind ++ "-" ++ toString i).toList.flatMap lowerChar =
      kind.toList.flatMap lowerChar ++ '-' :: numeral i := by
  have hnumeral : (toString i).toList = numeral i := Nat.toList_repr
  have hsuffix : ('-' :: numeral i).flatMap lowerChar = '-' :: numeral i := by
    have hsingle : ∀ c ∈ '-' :: numeral i, lowerChar c = [c] := List.forall_mem_cons.2
      ⟨lowerChar_of_isLabelChar (.inr rfl), fun c hc =>
        lowerChar_of_isLabelChar (.inl (isLabelChar_of_mem_numeral hc))⟩
    rw [List.flatMap_congr hsingle, List.flatMap_singleton']
  rw [String.toList_append, String.toList_append, hnumeral, List.append_assoc, List.flatMap_append]
  exact congrArg (_ ++ ·) hsuffix

/-- **A whole name ends with the number**, after a hyphen or at its start. -/
theorem exists_wholeName_eq (n : Node) (i : Nat) :
    ∃ start, wholeName n i = start ++ numeral i ∧ ∀ c ∈ start.getLast?, c = '-' := by
  have hhyphen : isLabelChar '-' = false := rfl
  refine ⟨labelChars false (n.kind.text.toList.flatMap lowerChar ++ ['-']), ?_,
    getLast?_labelChars hhyphen _⟩
  rw [wholeName, flatMap_lowerChar_numbered, labelChars_append hhyphen,
    labelChars_eq_self fun c hc => isLabelChar_of_mem_numeral hc]

theorem rtakeWhile_wholeName (n : Node) (i : Nat) :
    (wholeName n i).rtakeWhile (· != '-') = numeral i := by
  obtain ⟨start, hname, hstart⟩ := exists_wholeName_eq n i
  have hdigits : ∀ c ∈ (numeral i).reverse, (c != '-') = true := fun c hc => bne_iff_ne.2 <| by
    rintro rfl
    exact absurd (isLabelChar_of_mem_numeral (List.mem_reverse.1 hc)) (by decide)
  -- what stands before the number ends with a hyphen
  have hrest : start.reverse.takeWhile (· != '-') = [] := by
    rw [← List.head?_reverse] at hstart
    cases hlist : start.reverse with
    | nil => rfl
    | cons c rest =>
      rw [hlist] at hstart
      rw [hstart c rfl, List.takeWhile_cons_of_neg (by decide)]
  rw [hname, List.rtakeWhile, List.reverse_append, List.takeWhile_append_of_pos hdigits, hrest,
    List.append_nil, List.reverse_reverse]

theorem objectName_eq (h : NameFits n i) : objectName n i = String.ofList (wholeName n i) := by
  obtain ⟨start, hname, -⟩ := exists_wholeName_eq n i
  have hne : wholeName n i ≠ [] := by
    rw [hname]
    exact List.append_ne_nil_of_right_ne_nil start (numeral_ne_nil i)
  refine dnsLabel_eq rfl hne h ?_
  rintro c hc rfl
  rw [hname, List.getLast?_append, List.getLast?_eq_some_getLast (numeral_ne_nil i), Option.some_or,
    ← List.getLast?_eq_some_getLast (numeral_ne_nil i)] at hc
  exact absurd (isLabelChar_of_mem_numeral (List.mem_of_getLast? hc)) (by decide)

theorem objectName_injective (hn : NameFits n i) (hm : NameFits m j)
    (h : objectName n i = objectName m j) : i = j := by
  rw [objectName_eq hn, objectName_eq hm] at h
  have hlast := congrArg (List.rtakeWhile (· != '-')) (String.ofList_injective h)
  rw [rtakeWhile_wholeName, rtakeWhile_wholeName] at hlast
  exact numeral_injective hlast

theorem length_text_of_isKnown {k : Kind} (h : k.isKnown = true) :
    k.text.toList.all isLabelChar = true ∧ k.text.toList.length ≤ 12 := by
  cases k with
  | other raw => cases h
  | _ => decide

theorem nameFits_of_isKnown (hkind : n.kind.isKnown = true) (hi : i < UInt64.size) :
    NameFits n i := by
  obtain ⟨hchars, hlength⟩ := length_text_of_isKnown hkind
  have hlower : n.kind.text.toList.flatMap lowerChar = n.kind.text.toList := by
    rw [List.flatMap_congr fun c hc => lowerChar_of_isLabelChar (.inl (List.all_eq_true.1 hchars c hc)),
      List.flatMap_singleton']
  have hnumeral : (numeral i).length ≤ 20 :=
    (Nat.length_toDigits_le_iff (by decide) (by decide)).2 (Nat.lt_trans hi (by decide))
  have hname := length_labelChars_le false (n.kind.text.toList.flatMap lowerChar ++ '-' :: numeral i)
  rw [hlower, List.length_append, List.length_cons] at hname
  rw [NameFits, wholeName, flatMap_lowerChar_numbered, hlower]
  omega

/-! ## Names that are cut off -/

theorem objectName_eq_of_long (hlong : 63 ≤ (labelChars false (n.kind.text.toList.flatMap lowerChar)).length) :
    objectName n i = dnsLabel n.kind.text := by
  obtain ⟨rest, hrest⟩ := labelChars_isPrefix false
    (n.kind.text.toList.flatMap lowerChar) ('-' :: numeral i)
  rw [objectName, dnsLabel, flatMap_lowerChar_numbered, ← hrest, List.take_append_of_le_length hlong,
    dnsLabel]

/-! ## The objects of a stream -/

/-- What tells an object from others: its kind and its name. -/
def objectKey (t : Tree) : Option Scalar × Option Scalar :=
  (t.at? [.key "kind"], t.at? [.key "metadata", .key "name"])

/-- The objects of a text, each by its kind and its name. -/
def objectKeys (text : String) : List (Option (Option Scalar × Option Scalar)) :=
  (documents text).map fun doc => (readDocument doc).map objectKey

variable {c : GeneratorConfig}

theorem objectKey_server (h : n.kind = .server) : objectKey (manifestTree c n i) =
    (some (.plain "Deployment"), some (.plain (objectName n i))) := by
  simp only [manifestTree, h]
  rfl

theorem objectKey_other (h : n.kind ≠ .server) : objectKey (manifestTree c n i) =
    (some (.plain "ConfigMap"), some (.plain (objectName n i ++ "-config"))) := by
  simp only [manifestTree]
  rfl

theorem plain_injective {s t : String} (h : some (Scalar.plain s) = some (.plain t)) : s = t :=
  congrArg Scalar.text (Option.some.inj h)

theorem objectKeys_stream (c : GeneratorConfig) (nodes : List Node) :
    objectKeys (stream c nodes) = some (objectKey (namespaceTree c)) ::
      (numbered nodes).map fun item => some (objectKey (manifestTree c item.1 item.2)) := by
  have hread := congrArg (List.map (Option.map objectKey)) (readDocument_streamLines c nodes)
  rw [List.map_cons, List.map_map, List.map_map] at hread
  rw [objectKeys, documents_stream, List.map_map]
  exact hread

theorem objectKey_ne_namespace : objectKey (manifestTree c n i) ≠ objectKey (namespaceTree c) := by
  intro heq
  have hkind := congrArg Prod.fst heq
  by_cases hn : n.kind = .server
  · rw [objectKey_server hn] at hkind
    exact absurd (plain_injective hkind) (by decide)
  · rw [objectKey_other hn] at hkind
    exact absurd (plain_injective hkind) (by decide)

/-- **Objects with one kind and one name** are of components with one number, if their names are
whole. -/
theorem index_eq_of_objectKey (hfits : NameFits n i) (hfits' : NameFits m j)
    (h : objectKey (manifestTree c n i) = objectKey (manifestTree c m j)) : i = j := by
  have hkind := congrArg Prod.fst h
  have hname := congrArg Prod.snd h
  by_cases hn : n.kind = .server <;> by_cases hm : m.kind = .server
  · rw [objectKey_server hn, objectKey_server hm] at hname
    exact objectName_injective hfits hfits' (plain_injective hname)
  · rw [objectKey_server hn, objectKey_other hm] at hkind
    exact absurd (plain_injective hkind) (by decide)
  · rw [objectKey_other hn, objectKey_server hm] at hkind
    exact absurd (plain_injective hkind) (by decide)
  · rw [objectKey_other hn, objectKey_other hm] at hname
    exact objectName_injective hfits hfits' ((String.append_left_inj "-config").1 (plain_injective hname))

/-- **The objects of a stream differ in kind or name** where no name is cut off, whatever texts stand
in the configuration and the diagram. -/
theorem objects_distinct (context : EmitContext) (nodes : List Node)
    (hfits : ∀ item ∈ numbered nodes, NameFits item.1 item.2) :
    ∃ text, (emitter.emit context nodes).result = some text ∧ (objectKeys text).Nodup := by
  refine ⟨stream context.config nodes, rfl, ?_⟩
  rw [objectKeys_stream]
  have hnumbers : ((numbered nodes).map Prod.snd).Nodup := by
    rw [numbered, List.zipIdx_map_snd]
    exact List.nodup_range'
  refine List.nodup_cons.2 ⟨fun hmem => ?_, List.pairwise_map.2 ?_⟩
  · obtain ⟨item, -, heq⟩ := List.mem_map.1 hmem
    exact objectKey_ne_namespace (Option.some.inj heq)
  · refine (List.pairwise_map.1 hnumbers).imp_of_mem fun hitem hother hne heq => hne ?_
    exact index_eq_of_objectKey (hfits _ hitem) (hfits _ hother) (Option.some.inj heq)

/-- Components of the catalog and others. -/
def mixedNodes : List Node := [
  .ofKind "node-1" .server "Web",
  .ofKind "node-2" .server "Web",
  .ofKind "node-3" (.other "Message Queue, v2") "",
  .ofKind "node-4" (.other "") "",
  .ofKind "node-5" (.other "-") ""]

theorem objects_distinct_mixed :
    (∀ item ∈ numbered mixedNodes, NameFits item.1 item.2) ∧
      ∃ text, (emitter.emit ⟨.default, ⟨0, 0⟩⟩ mixedNodes).result = some text ∧
        (objectKeys text).Nodup := by
  have hfits : ∀ item ∈ numbered mixedNodes, NameFits item.1 item.2 := by decide +kernel
  exact ⟨hfits, objects_distinct _ mixedNodes hfits⟩

/-- **Two components with one long kind have objects of one name**: nothing is left of their
numbers. -/
theorem objects_collide (context : EmitContext) (hkind : n.kind = m.kind)
    (hlong : 63 ≤ (labelChars false (n.kind.text.toList.flatMap lowerChar)).length) :
    ∃ text, (emitter.emit context [n, m]).result = some text ∧ ¬ (objectKeys text).Nodup := by
  refine ⟨stream context.config [n, m], rfl, fun hnodup => ?_⟩
  have hname : objectName n 1 = objectName m 2 := by
    rw [objectName_eq_of_long hlong, objectName_eq_of_long (hkind ▸ hlong), hkind]
  have hkeys : objectKey (manifestTree context.config n 1) =
      objectKey (manifestTree context.config m 2) := by
    by_cases hn : n.kind = .server
    · rw [objectKey_server hn, objectKey_server (hkind ▸ hn), hname]
    · rw [objectKey_other hn, objectKey_other (hkind ▸ hn), hname]
  rw [objectKeys_stream] at hnodup
  have hpair := (List.nodup_cons.1 hnodup).2
  exact (List.nodup_cons.1 hpair).1 (List.mem_singleton.2 (congrArg some hkeys))

/-- A kind of sixty-four letters. -/
def longKind : Kind := .other (String.ofList (List.replicate 64 'a'))

theorem objects_collide_longKind :
    ∃ text, (emitter.emit ⟨.default, ⟨0, 0⟩⟩
        [.ofKind "node-1" longKind "", .ofKind "node-2" longKind ""]).result = some text ∧
      ¬ (objectKeys text).Nodup := by
  refine objects_collide _ rfl ?_
  have hsmall : ∀ c ∈ List.replicate 64 'a', isLabelChar c = true := fun c hc => by
    rw [List.eq_of_mem_replicate hc]
    rfl
  have hlower : (List.replicate 64 'a').flatMap lowerChar = List.replicate 64 'a' := by
    rw [List.flatMap_congr fun c hc => lowerChar_of_isLabelChar (.inl (hsmall c hc)),
      List.flatMap_singleton']
  show 63 ≤ (labelChars false ((String.ofList (List.replicate 64 'a')).toList.flatMap lowerChar)).length
  rw [String.toList_ofList, hlower, labelChars_eq_self hsmall, List.length_replicate]
  decide

end CloudDiagram.Manifest
