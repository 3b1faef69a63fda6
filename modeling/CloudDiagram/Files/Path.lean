/-!
# File paths

* `FilePath`: a path by its text and by the names that it is made of;
* `FilePath.parent?`, `FilePath.child`: the directory of a path, and a file in it;
* `FilePath.withExtension`: the path with the extension of its last name replaced;
* `FilePath.nameLimit`, `FilePath.textLimit`: how long names and texts can be.
-/

namespace CloudDiagram

/-- How the text of a path ends: with a name, with a slash after it, or with a dot after that, which
means the directory itself. -/
inductive PathEnding
  | name
  | slash
  | dot
  deriving DecidableEq

/-- **A path** as it is shown, the names on the way, and how it ends. -/
structure FilePath where
  text : String
  names : List String
  ending : PathEnding
  deriving DecidableEq

namespace FilePath

/-- The pieces of a text between slashes. -/
def splitSlashes : List Char → List (List Char)
  | [] => [[]]
  | c :: rest =>
    if c = '/' then [] :: splitSlashes rest
    else match splitSlashes rest with
      | [] => [[c]]
      | piece :: pieces => (c :: piece) :: pieces

/-- The pieces of a text between slashes, as texts. -/
def pieces (text : String) : List String := (splitSlashes text.toList).map String.ofList

/-- An empty piece or a single dot leads nowhere. -/
def leadsNowhere (piece : String) : Bool := piece == "" || piece == "."

/-- The name of the topmost directory. -/
def top : String := "/"

/-- The text begins at the topmost directory. -/
def isFromTop (text : String) : Bool := text.toList.head? == some '/'

/-- **The path of a text.** Empty pieces and single dots lead nowhere, and a slash at the beginning
is the name of the topmost directory. -/
def ofText (text : String) : FilePath :=
  let pieces := pieces text
  { text
    names := (if isFromTop text then [top] else []) ++ pieces.filter (!leadsNowhere ·)
    ending :=
      if (pieces.filter (· != "")).getLast? = some "." then .dot
      else if pieces.getLast? = some "" then .slash
      else .name }

/-- The text of some names. -/
def textOf : List String → String
  | [] => ""
  | name :: rest =>
    if name = top then top ++ String.intercalate "/" rest
    else String.intercalate "/" (name :: rest)

/-- The path of some names. -/
def ofNames (names : List String) : FilePath := ⟨textOf names, names, .name⟩

/-- Pieces up to the last name. -/
def upToName (pieces : List String) : List String :=
  (pieces.reverse.dropWhile leadsNowhere).reverse

/-- The pieces of a text before its last name. -/
def piecesAbove (text : String) : List String := (upToName (pieces text)).dropLast

/-- The text of the directory of a text: what stands before the last name, up to the name before. -/
def textAbove (text : String) : String :=
  match upToName (piecesAbove text) with
  | [] => if isFromTop text then top else ""
  | kept => String.intercalate "/" kept

/-- The path without its last name, if it has one below the topmost directory. -/
def parent? (p : FilePath) : Option FilePath :=
  match p.names.getLast? with
  | none => none
  | some last =>
    if last = top then none else some ⟨textAbove p.text, p.names.dropLast, .name⟩

/-- A file in the directory of a path. -/
def child (p : FilePath) (name : String) : FilePath :=
  let text :=
    if p.text.isEmpty then name
    else if p.text.toList.getLast? = some '/' then p.text ++ name
    else p.text ++ "/" ++ name
  ⟨text, p.names ++ [name], .name⟩

/-- The characters of a name before its last dot, if there is a dot after its first character. -/
def stem (name : List Char) : List Char :=
  match (name.reverse.dropWhile (· != '.')).drop 1 with
  | [] => name
  | before => before.reverse

/-- A name with its extension replaced. -/
def nameWithExtension (name extension : String) : String :=
  String.ofList (stem name.toList) ++ "." ++ extension

/-- **The path with the extension of its last name replaced**, or added. A path that ends upwards or
at the top has no such name and is kept. The old extension goes first: a path that ends with `..c`
leads upwards without it, and gets no new one. -/
def withExtension (p : FilePath) (extension : String) : FilePath :=
  match p.names.getLast? with
  | none => p
  | some last =>
    if last = ".." ∨ last = top then p
    else
      let name :=
        if stem last.toList = ['.'] ∧ p.ending = .name then ".."
        else nameWithExtension last extension
      ⟨String.intercalate "/" (piecesAbove p.text ++ [name]), p.names.dropLast ++ [name], .name⟩

/-- The number of bytes that a name can have. -/
def nameLimit : Nat := 255

/-- The number of bytes that the text of a path can have. -/
def textLimit : Nat := 4095

end FilePath

end CloudDiagram
