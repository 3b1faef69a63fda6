import CloudDiagram.Record.Mismatch

/-!
# Tables of a configuration file

Which keys and headers may follow each other.

* `Item`: a value, a table, or a list of tables;
* `addKey?`: a key, perhaps with dots, put into a table;
* `openTable?`, `openTables?`, `closeTable?`: a header begun and ended.

A table is **implicit** while it exists only as part of a longer header or key, and **dotted** if it
comes from a key with dots. Entries stay in the order in which they were put in.
-/

namespace CloudDiagram.Toml

/-- A value: a text, or what it is instead. -/
abbrev Leaf := Except Found String

/-- **What a key stands for.** -/
inductive Item
  | leaf (value : Leaf)
  | table (implicit dotted : Bool) (entries : List (String × Item))
  /-- A list of tables; those before the last one cannot change any more. -/
  | tables (last : List (String × Item))

/-- A table by its entries and marks. -/
structure Table where
  implicit : Bool
  dotted : Bool
  entries : List (String × Item)

namespace Table

/-- The table of a header or of a whole file, without entries. -/
def empty : Table := ⟨false, false, []⟩

/-- A table that exists only as part of a longer header or key. -/
def part (dotted : Bool) : Table := ⟨true, dotted, []⟩

/-- A table as an item. -/
def toItem (t : Table) : Item := .table t.implicit t.dotted t.entries

/-- The item of a key. -/
def get? (t : Table) (key : String) : Option Item :=
  (t.entries.find? (·.1 == key)).map (·.2)

/-- The table with the item of a key replaced, or put in last. -/
def set (t : Table) (key : String) (item : Item) : Table :=
  if t.entries.any (·.1 == key) then
    { t with entries := t.entries.map fun e => if e.1 == key then (key, item) else e }
  else { t with entries := t.entries ++ [(key, item)] }

/-- The table without a key. -/
def remove (t : Table) (key : String) : Table :=
  { t with entries := t.entries.filter (·.1 != key) }

end Table

/-- **A change of the table at the end of a path**, which is made where it is missing. A key with dots
does not lead into a table that has a header or was written out. -/
def descend? {α : Type} (dotted : Bool) (change : Table → Option (α × Table)) :
    List String → Table → Option (α × Table)
  | [], t => change t
  | name :: path, t =>
    match t.get? name with
    | none => do
      let (a, below) ← descend? dotted change path (Table.part dotted)
      some (a, t.set name below.toItem)
    | some (.leaf _) => none
    | some (.table implicit wasDotted entries) =>
      if dotted && !implicit then none
      else do
        let (a, below) ← descend? dotted change path ⟨implicit, wasDotted, entries⟩
        some (a, t.set name below.toItem)
    | some (.tables last) => do
      let (a, below) ← descend? dotted change path ⟨false, false, last⟩
      some (a, t.set name (.tables below.entries))

/-- The path of a key and its last name. -/
def splitLast (names : List String) : List String × String :=
  (names.dropLast, names.getLast?.getD "")

/-- **A key put into a table**, unless it is there. Dots may not lead into a table without dots, nor a
plain key into one with dots. -/
def addKey? (names : List String) (value : Leaf) (t : Table) : Option Table :=
  let (path, name) := splitLast names
  (descend? true (fun target =>
    if target.dotted == path.isEmpty || (target.get? name).isSome then none
    else some ((), target.set name (.leaf value))) path t).map (·.2)

/-- **A header begun**: the table that it goes on with, and the whole without it. A table that only
longer headers have mentioned is gone on with; any other may not be there. -/
def openTable? (names : List String) (root : Table) : Option (Table × Table) :=
  let (path, name) := splitLast names
  descend? false (fun parent =>
    match parent.get? name with
    | none => some (Table.empty, parent)
    | some (.table true false entries) => some (⟨false, false, entries⟩, parent.remove name)
    | some _ => none) path root

/-- **The header of one more table of a list begun.** -/
def openTables? (names : List String) (root : Table) : Option (Table × Table) :=
  let (path, name) := splitLast names
  descend? false (fun parent =>
    match parent.get? name with
    | none => some (Table.empty, parent.set name (.tables []))
    | some (.tables _) => some (Table.empty, parent)
    | some _ => none) path root

/-- **A header ended**: its table put where it belongs. -/
def closeTable? (names : List String) (item : Item) (root : Table) : Option Table :=
  let (path, name) := splitLast names
  (descend? false (fun parent => some ((), parent.set name item)) path root).map (·.2)

end CloudDiagram.Toml
