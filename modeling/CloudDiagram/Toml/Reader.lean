import CloudDiagram.Number.Layout
import CloudDiagram.Toml.Scalar
import CloudDiagram.Toml.Table

/-!
# Reading a configuration file

* `readLeaf?`: a value;
* `Progress`: the tables of the lines so far, and the one that is being filled;
* `readLines?`: the lines of a file;
* `readFile?`: the keys of a file with their values, or nothing if it is malformed.
-/

namespace CloudDiagram.Toml

open Text

/-! ## Values -/

/-- The text of a floating-point number in a message: a whole one shows a fraction. -/
def shownFloat (x : Binary64) : String :=
  String.ofList ((Layout.mk (fun _ => true) ['.', '0'] .up).write x)

/-- A value that is not a text. -/
def found (f : Found) : Leaf := .error f

/-- A number, a date or a time. -/
def numeric? (s : List Char) : Option (Leaf × List Char) :=
  match moment? s with
  | some rest => some (found .map, rest)
  | none =>
    match float? s with
    | some (x, rest) => some (found (.float (shownFloat x)), rest)
    | none => (integer? s).map fun (i, rest) => (found (.integer i), rest)

mutual

/-- **A value**, inside a number of lists and tables that are open. Only the sort of a list or a
table is kept. -/
def readLeaf? : Nat → Nat → List Char → Option (Leaf × List Char)
  | 0, _, _ => none
  | fuel + 1, depth, s =>
    match s with
    | [] => none
    | c :: rest =>
      if c = '"' || c = '\'' then (string? s).map fun (text, more) => (.ok text, more)
      else if c = '[' then
        if depth + 1 < depthLimit then (readItems? fuel (depth + 1) rest).map (found .sequence, ·)
        else none
      else if c = '\x7b' then
        if depth + 1 < depthLimit then
          (readPairs? fuel (depth + 1) true Table.empty rest).map (found .map, ·)
        else none
      else if c = '+' || c = '-' || isDigit c then numeric? s
      else match s with
        | 't' :: 'r' :: 'u' :: 'e' :: more => some (found (.bool true), more)
        | 'f' :: 'a' :: 'l' :: 's' :: 'e' :: more => some (found (.bool false), more)
        | _ => (float? s).map fun (x, more) => (found (.float (shownFloat x)), more)

/-- What follows the items of a list and its closing bracket. -/
def readItems? : Nat → Nat → List Char → Option (List Char)
  | 0, _, _ => none
  | fuel + 1, depth, s =>
    match skipLines? (s.length + 1) s with
    | none => none
    | some (']' :: rest) => some rest
    | some item =>
      match readLeaf? fuel depth item with
      | none => none
      | some (_, after) =>
        match skipLines? (after.length + 1) after with
        | some (',' :: rest) => readItems? fuel depth rest
        | some (']' :: rest) => some rest
        | _ => none

/-- What follows the pairs of an inline table and its closing brace, given the table so far. -/
def readPairs? : Nat → Nat → Bool → Table → List Char → Option (List Char)
  | 0, _, _, _, _ => none
  | fuel + 1, depth, opening, table, s =>
    match skipBlanks s with
    | [] => none
    | c :: rest =>
      if c = '\x7d' && opening then some rest
      else match key? (c :: rest) with
        | some (names, '=' :: value) =>
          match readLeaf? fuel depth (skipBlanks value) with
          | none => none
          | some (leaf, after) =>
            match addKey? names leaf table with
            | none => none
            | some next =>
              match skipBlanks after with
              | ',' :: more => readPairs? fuel depth false next more
              | '\x7d' :: more => some more
              | _ => none
        | _ => none

end

/-! ## Lines -/

/-- **What the lines so far have given**: the finished tables, and the one that is being filled, with
its header and whether it belongs to a list. -/
structure Progress where
  root : Table
  current : Table
  header : List String
  inList : Bool

namespace Progress

/-- Before the first line. -/
def start : Progress := ⟨Table.empty, Table.empty, [], false⟩

/-- The table that is being filled put where it belongs. -/
def finish? (p : Progress) : Option Table :=
  if p.header.isEmpty then some p.current
  else closeTable? p.header (if p.inList then .tables p.current.entries else p.current.toItem) p.root

/-- A key with its value. -/
def add? (p : Progress) (names : List String) (value : Leaf) : Option Progress := do
  let current ← addKey? names value p.current
  some { p with current }

/-- The header of a table, or of one more table of a list. -/
def head? (p : Progress) (names : List String) (inList : Bool) : Option Progress := do
  let finished ← p.finish?
  let (current, root) ← if inList then openTables? names finished else openTable? names finished
  some ⟨root, current, names, inList⟩

end Progress

/-- A header, after its opening bracket: its names, whether it belongs to a list, and the lines after
it. -/
def readHeader? (s : List Char) : Option (List String × Bool × List Char) :=
  match s with
  | '[' :: rest => do
    match ← key? rest with
    | (names, ']' :: ']' :: after) =>
      let more ← lineEnd? after
      some (names, true, more)
    | _ => none
  | _ => do
    match ← key? s with
    | (names, ']' :: after) =>
      let more ← lineEnd? after
      some (names, false, more)
    | _ => none

/-- A key, its value and the lines after it. -/
def readPair? (s : List Char) : Option (List String × Leaf × List Char) := do
  match ← key? s with
  | (names, '=' :: rest) =>
    let value := skipBlanks rest
    let (leaf, after) ← readLeaf? (value.length + 1) 0 value
    let more ← lineEnd? after
    some (names, leaf, more)
  | _ => none

/-- **The lines of a file**, at most `fuel` of them. -/
def readLines? : Nat → Progress → List Char → Option Progress
  | 0, _, _ => none
  | fuel + 1, p, s =>
    match skipBlanks s with
    | [] => some p
    | c :: rest =>
      if c = '#' || c = '\n' || c = '\r' then
        match lineEnd? (c :: rest) with
        | none => none
        | some more => readLines? fuel p more
      else if c = '[' then
        match readHeader? rest with
        | none => none
        | some (names, inList, more) =>
          match p.head? names inList with
          | none => none
          | some next => readLines? fuel next more
      else
        match readPair? (c :: rest) with
        | none => none
        | some (names, leaf, more) =>
          match p.add? names leaf with
          | none => none
          | some next => readLines? fuel next more

/-- The value of a key, where a table is no text. -/
def Item.leafOf : Item → Leaf
  | .leaf value => value
  | .table _ _ _ => found .map
  | .tables _ => found .sequence

/-- **The keys of a file** with their values, in order, or nothing if the file is malformed. A mark of
the byte order is passed over. -/
def readFile? (text : String) : Option (List (String × Leaf)) := do
  let s := match text.toList with
    | '\uFEFF' :: rest => rest
    | s => s
  let p ← readLines? (s.length + 1) Progress.start s
  let root ← p.finish?
  some (root.entries.map fun (key, item) => (key, item.leafOf))

end CloudDiagram.Toml
