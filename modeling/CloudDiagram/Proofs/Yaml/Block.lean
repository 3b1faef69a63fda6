import CloudDiagram.Proofs.Yaml.Scalar

/-!
# Reading streams of documents

A reader of documents in block style: mappings and sequences by indentation, scalars on one line.

* `Yaml.textLines`, `Yaml.documents`: the lines of a text, and its documents between separators;
* `Yaml.Entry`, `Yaml.readLine`: what a line says and at which column;
* `Yaml.Tree`, `Yaml.Part`, `Yaml.nest`: what is nested in what;
* `Yaml.readDocument`: the value of a document, `Yaml.Tree.at?` what stands in it at a path.
-/

namespace CloudDiagram.Yaml

/-! ## Lines and documents -/

/-- **The lines of a text**, whatever ends them. What follows the last end of a line is a line if it
is not empty. -/
def textLines : List Char → List (List Char)
  | [] => []
  | c :: rest =>
    if isBreak c then [] :: textLines rest
    else match textLines rest with
      | [] => [[c]]
      | line :: later => (c :: line) :: later

/-- The line between two documents. -/
def separator : List Char := ['-', '-', '-']

/-- **The documents of a text**, each as its lines. -/
def documents (text : String) : List (List (List Char)) := (textLines text.toList).splitOn separator

/-! ## What a line says -/

/-- **An entry of a block**: the start of an item, or a key and the scalar beside it. -/
inductive Entry
  | item
  | key (name : String) (value : Option Scalar)

/-- A character of a key. -/
def isKeyChar (c : Char) : Bool := Text.isAlphanumeric c || c == '-' || c == '_'

/-- A key up to its colon, and what follows. -/
def splitKey : List Char → Option (List Char × List Char)
  | [] => none
  | c :: rest =>
    if c == ':' && rest.head?.all isSpace then some ([], rest)
    else if isKeyChar c then (splitKey rest).map fun (key, value) => (c :: key, value)
    else none

/-- The scalar beside a key, if there is one. -/
def readValue (text : List Char) : Option (Option Scalar) :=
  match text.dropWhile isSpace with
  | [] => some none
  | '#' :: _ => some none
  | value => (readScalar value).map some

/-- A key and the scalar beside it. -/
def readKey (column : Nat) (text : List Char) : Option (List (Nat × Entry)) := do
  let (key, value) ← splitKey text
  (readValue value).map fun scalar => [(column, .key (String.ofList key) scalar)]

/-- **What a line says**, with the columns of its parts; nothing on a comment. -/
def readLine (column : Nat) : List Char → Option (List (Nat × Entry))
  | [] => some []
  | c :: rest =>
    if c == ' ' then readLine (column + 1) rest
    else if c == '#' then some []
    else if c == '-' && rest.head?.all (· == ' ') then
      (readLine (column + 1) rest).map ((column, .item) :: ·)
    else readKey column (c :: rest)

/-- What lines say, one after the other. -/
def readLines : List (List Char) → Option (List (Nat × Entry))
  | [] => some []
  | line :: rest => do return (← readLine 0 line) ++ (← readLines rest)

/-! ## What a document says -/

/-- **The value of a document.** -/
inductive Tree
  | scalar (s : Scalar)
  | sequence (items : List Tree)
  | mapping (members : List (String × Tree))

/-- A key with its value, or an item, at a column. -/
structure Part where
  column : Nat
  key : Option String
  value : Tree

/-- The part is nested in an entry at a column. The items of a sequence may stand at the column of
their key. -/
def Part.nestsIn (p : Part) (column : Nat) : Entry → Bool
  | .item => column < p.column
  | .key _ _ => column < p.column || (column == p.column && p.key.isNone)

/-- **The value of parts side by side**: at one column, with distinct keys or all without. -/
def block : List Part → Option Tree
  | [] => some (.scalar (.plain ""))
  | first :: rest =>
    let parts := first :: rest
    let keys := parts.filterMap (·.key)
    if !rest.all (·.column == first.column) then none
    else if keys.length == parts.length then
      if keys.Nodup then some (.mapping (keys.zip (parts.map (·.value)))) else none
    else if keys.isEmpty then some (.sequence (parts.map (·.value)))
    else none

/-- An entry with the parts that are nested in it. -/
def Entry.part? (column : Nat) (nested : List Part) : Entry → Option Part
  | item => (block nested).map fun value => ⟨column, none, value⟩
  | key name none => (block nested).map fun value => ⟨column, some name, value⟩
  | key name (some s) => if nested.isEmpty then some ⟨column, some name, .scalar s⟩ else none

/-- **What is nested in what**, from the last entry up. -/
def nest : List (Nat × Entry) → Option (List Part)
  | [] => some []
  | (column, e) :: rest => do
    let parts ← nest rest
    let part ← e.part? column (parts.takeWhile (·.nestsIn column e))
    return part :: parts.dropWhile (·.nestsIn column e)

/-- **The value of a document**, from its lines. -/
def readDocument (lines : List (List Char)) : Option Tree := do
  let entries ← readLines lines
  let parts ← nest entries
  block parts

/-! ## Paths -/

/-- A step into a value. -/
inductive Step
  | key (name : String)
  | item (index : Nat)

/-- The value one step into another. -/
def Tree.child? : Tree → Step → Option Tree
  | mapping members, .key name => (members.find? (·.1 == name)).map (·.2)
  | sequence items, .item index => items[index]?
  | _, _ => none

/-- **The scalar at a path.** -/
def Tree.at? (t : Tree) (path : List Step) : Option Scalar :=
  match path.foldlM Tree.child? t with
  | some (.scalar s) => some s
  | _ => none

/-! ## Texts made of lines -/

theorem textLines_append {l : List Char} (h : ∀ c ∈ l, isBreak c = false) (rest : List Char) :
    textLines (l ++ '\n' :: rest) = l :: textLines rest := by
  induction l with
  | nil => rfl
  | cons c l ih =>
    obtain ⟨hc, hl⟩ := List.forall_mem_cons.1 h
    simp only [List.cons_append, textLines, hc, Bool.false_eq_true, if_false, ih hl]

/-! ## Single lines -/

/-- **The line says entries**, and does not go on past its end. -/
structure LineSays (l : String) (es : List (Nat × Entry)) : Prop where
  onOneLine : OnOneLine l
  read : readLine 0 l.toList = some es

theorem LineSays.fixed {l : List Char} {es : List (Nat × Entry)} (hbreak : l.all (!isBreak ·) = true)
    (h : readLine 0 l = some es) : LineSays (String.ofList l) es := by
  refine ⟨.fixed hbreak, ?_⟩
  rw [String.toList_ofList]
  exact h

theorem readValue_of_readScalar {text : List Char} {s : Scalar} (h : readScalar text = some s) :
    readValue (' ' :: text) = some (some s) := by
  have hvalue : readValue (' ' :: text) = readValue text := rfl
  rw [hvalue]
  cases text with
  | nil => cases h
  | cons c rest =>
    have hspace : isSpace c = false := Bool.eq_false_iff.2 fun hspace => by
      simp only [isSpace, Bool.or_eq_true, beq_iff_eq] at hspace
      obtain rfl | rfl := hspace <;> cases h
    have hcomment : c ≠ '#' := by
      rintro rfl
      cases h
    unfold readValue
    rw [List.dropWhile_cons_of_neg (by rw [hspace]; exact Bool.false_ne_true)]
    split
    · rename_i hnil
      cases hnil
    · rename_i heq
      exact absurd (List.cons.inj heq).1 hcomment
    · rw [h, Option.map_some]

theorem LineSays.scalar {l : List Char} {v : String} {s : Scalar}
    (entries : Option Scalar → List (Nat × Entry)) (hbreak : l.all (!isBreak ·) = true)
    (h : ∀ text, readLine 0 (l ++ text) = (readValue (' ' :: text)).map entries)
    (hv : OnOneLine v) (hscalar : readScalar v.toList = some s) :
    LineSays (String.ofList l ++ v) (entries (some s)) := by
  refine ⟨(OnOneLine.fixed hbreak).append hv, ?_⟩
  rw [String.toList_append, String.toList_ofList, h, readValue_of_readScalar hscalar, Option.map_some]

theorem LineSays.comment {l : List Char} {s : String}
    (h : OnOneLine (String.ofList ('#' :: l) ++ s)) : LineSays (String.ofList ('#' :: l) ++ s) [] := by
  refine ⟨h, ?_⟩
  rw [String.toList_append, String.toList_ofList]
  rfl

/-! ## Lines one after the other -/

/-- **The lines say entries**, one line after the other. -/
inductive Says : List String → List (Nat × Entry) → Prop
  | nil : Says [] []
  | cons {l : String} {ls : List String} {es es' : List (Nat × Entry)} :
    LineSays l es → Says ls es' → Says (l :: ls) (es ++ es')

variable {ls : List String} {es : List (Nat × Entry)}

theorem Says.entry {l : String} {column : Nat} {e : Entry} (hl : LineSays l [(column, e)])
    (h : Says ls es) : Says (l :: ls) ((column, e) :: es) :=
  .cons hl h

theorem Says.entries {l : String} {column column' : Nat} {e e' : Entry}
    (hl : LineSays l [(column, e), (column', e')]) (h : Says ls es) :
    Says (l :: ls) ((column, e) :: (column', e') :: es) :=
  .cons hl h

theorem Says.nothing {l : String} (hl : LineSays l []) (h : Says ls es) : Says (l :: ls) es :=
  .cons hl h

theorem Says.readLines (h : Says ls es) : readLines (ls.map String.toList) = some es := by
  induction h with
  | nil => rfl
  | cons hl _ ih =>
    simp only [List.map_cons, Yaml.readLines, hl.read, ih, Option.bind_eq_bind, Option.bind_some,
      Option.pure_def]

theorem Says.readDocument {t : Tree} (h : Says ls es) (htree : (nest es).bind block = some t) :
    readDocument (ls.map String.toList) = some t := by
  rw [Yaml.readDocument, h.readLines]
  exact htree

theorem Says.onOneLine (h : Says ls es) : ∀ l ∈ ls, OnOneLine l := by
  induction h with
  | nil => exact List.forall_mem_nil _
  | cons hl _ ih => exact List.forall_mem_cons.2 ⟨hl.onOneLine, ih⟩

/-- **A line that says something else is no separator.** -/
theorem Says.separator_notMem (h : Says ls es) : separator ∉ ls.map String.toList := by
  induction h with
  | nil => exact List.not_mem_nil
  | cons hl _ ih =>
    refine List.not_mem_cons_of_ne_of_not_mem (fun heq => ?_) ih
    have hread := hl.read
    rw [← heq] at hread
    cases hread

end CloudDiagram.Yaml
