import CloudDiagram.Text.Decimal

/-!
# Parts of a configuration file

White space, comments, strings and keys of the TOML format, version 1.0. A reader takes its part off
the head of a text, or gives nothing where the text is malformed.

* `skipBlanks`, `lineEnd?`, `skipLines?`: white space, the end of a line, and empty lines;
* `lineString?`, `blockString?`, `string?`: strings on one line and on several;
* `key?`: a key, which may have dots.
-/

namespace CloudDiagram.Toml

open Text

/-- A space or a tab. -/
def isBlankChar (c : Char) : Bool := c == ' ' || c == '\t'

/-- The text from its first character on that is not a space or a tab. -/
def skipBlanks (s : List Char) : List Char := s.dropWhile isBlankChar

/-- A character other than a control, though it may be a tab. -/
def isShown (c : Char) : Bool := c == '\t' || (0x20 ≤ c.toNat && c.toNat != 0x7F)

/-- What follows the end of a line at the head of a text. -/
def newline? : List Char → Option (List Char)
  | '\n' :: rest => some rest
  | '\r' :: '\n' :: rest => some rest
  | _ => none

/-- What follows a comment, if there is one, up to the end of the line. -/
def skipComment : List Char → List Char
  | '#' :: rest => rest.dropWhile isShown
  | s => s

/-- **The rest of a line** that may hold a comment only, and its end or the end of the text. -/
def lineEnd? (s : List Char) : Option (List Char) :=
  match skipComment (skipBlanks s) with
  | [] => some []
  | rest => newline? rest

/-- White space, ends of lines and comments between the items of a list. A comment ends with its
line. -/
def skipLines? : Nat → List Char → Option (List Char)
  | 0, s => some s
  | fuel + 1, s =>
    match skipBlanks s with
    | '#' :: rest => (newline? (rest.dropWhile isShown)).bind (skipLines? fuel)
    | rest =>
      match newline? rest with
      | some more => skipLines? fuel more
      | none => some rest

/-! ## Strings -/

/-- The value of a hexadecimal digit. -/
def hexValue? (c : Char) : Option Nat :=
  if isDigit c then some (digitValue c)
  else if 'a' ≤ c && c ≤ 'f' then some (c.toNat - 'a'.toNat + 10)
  else if 'A' ≤ c && c ≤ 'F' then some (c.toNat - 'A'.toNat + 10)
  else none

/-- The number of a row of hexadecimal digits. -/
def hexNumber? (digits : List Char) : Option Nat :=
  digits.foldlM (fun n c => (hexValue? c).map (16 * n + ·)) 0

/-- A character by its number in some hexadecimal digits. -/
def codeEscape? (width : Nat) (s : List Char) : Option (Char × List Char) := do
  let digits := s.take width
  let n ← hexNumber? digits
  if digits.length = width && (n < 0xD800 || (0xDFFF < n && n < 0x110000)) then
    some (Char.ofNat n, s.drop width)
  else none

/-- The character of an escape, after its backslash. -/
def escape? : List Char → Option (Char × List Char)
  | 'b' :: rest => some ('\x08', rest)
  | 't' :: rest => some ('\t', rest)
  | 'n' :: rest => some ('\n', rest)
  | 'f' :: rest => some ('\x0c', rest)
  | 'r' :: rest => some ('\r', rest)
  | '"' :: rest => some ('"', rest)
  | '\\' :: rest => some ('\\', rest)
  | 'u' :: rest => codeEscape? 4 rest
  | 'U' :: rest => codeEscape? 8 rest
  | _ => none

/-- One more character of a string. -/
def consChar (c : Char) : Option (List Char × List Char) → Option (List Char × List Char)
  | none => none
  | some (chars, rest) => some (c :: chars, rest)

/-- **A string on one line**, after its opening quote. Escapes count if a flag says so. -/
def lineString? (quote : Char) (escapes : Bool) : Nat → List Char → Option (List Char × List Char)
  | 0, _ => none
  | _ + 1, [] => none
  | fuel + 1, c :: rest =>
    if c = quote then some ([], rest)
    else if c = '\\' && escapes then
      match escape? rest with
      | none => none
      | some (d, more) => consChar d (lineString? quote escapes fuel more)
    else if isShown c then consChar c (lineString? quote escapes fuel rest)
    else none

/-- The text from its first character on that is neither blank nor the end of a line. -/
def skipWhite : List Char → List Char
  | ' ' :: rest => skipWhite rest
  | '\t' :: rest => skipWhite rest
  | '\n' :: rest => skipWhite rest
  | '\r' :: '\n' :: rest => skipWhite rest
  | s => s

/-- What follows a backslash at the end of a line, without the white space at its head. -/
def continuation? (s : List Char) : Option (List Char) := (newline? (skipBlanks s)).map skipWhite

/-- **A string on several lines**, after its opening quotes. One or two quotes stand for themselves,
also before the three that close it. -/
def blockString? (quote : Char) (escapes : Bool) : Nat → List Char → Option (List Char × List Char)
  | 0, _ => none
  | _ + 1, [] => none
  | fuel + 1, c :: rest =>
    if c = quote then
      let run := (c :: rest).takeWhile (· == quote)
      let more := (c :: rest).dropWhile (· == quote)
      if run.length < 3 then
        match blockString? quote escapes fuel more with
        | none => none
        | some (chars, last) => some (run ++ chars, last)
      else if run.length < 6 then some (run.drop 3, more)
      else none
    else if c = '\\' && escapes then
      match continuation? rest with
      | some more => blockString? quote escapes fuel more
      | none =>
        match escape? rest with
        | none => none
        | some (d, more) => consChar d (blockString? quote escapes fuel more)
    else if isShown c then consChar c (blockString? quote escapes fuel rest)
    else
      match newline? (c :: rest) with
      | none => none
      | some more => consChar '\n' (blockString? quote escapes fuel more)

/-- A string on several lines, whose first line end does not count. -/
def openBlock? (quote : Char) (escapes : Bool) (s : List Char) : Option (List Char × List Char) :=
  blockString? quote escapes (s.length + 1) ((newline? s).getD s)

/-- A string value, from its opening quote on. -/
def string? (s : List Char) : Option (String × List Char) :=
  let chars := match s with
    | '"' :: '"' :: '"' :: rest => openBlock? '"' true rest
    | '\'' :: '\'' :: '\'' :: rest => openBlock? '\'' false rest
    | '"' :: rest => lineString? '"' true (rest.length + 1) rest
    | '\'' :: rest => lineString? '\'' false (rest.length + 1) rest
    | _ => none
  chars.map fun (cs, rest) => (String.ofList cs, rest)

/-! ## Keys -/

/-- A character of a bare key. -/
def isBareChar (c : Char) : Bool := isAlphanumeric c || c == '_' || c == '-'

/-- A key without dots: a string on one line, or bare characters. -/
def simpleKey? (s : List Char) : Option (String × List Char) :=
  let chars := match s with
    | '"' :: rest => lineString? '"' true (rest.length + 1) rest
    | '\'' :: rest => lineString? '\'' false (rest.length + 1) rest
    | _ =>
      let bare := s.takeWhile isBareChar
      if bare.isEmpty then none else some (bare, s.dropWhile isBareChar)
  chars.map fun (cs, rest) => (String.ofList cs, rest)

/-- The names of a key. -/
def keyNames? : Nat → List Char → Option (List String × List Char)
  | 0, _ => none
  | fuel + 1, s => do
    let (name, rest) ← simpleKey? (skipBlanks s)
    match skipBlanks rest with
    | '.' :: more =>
      let (names, last) ← keyNames? fuel more
      some (name :: names, last)
    | last => some ([name], last)

/-- How deep keys and values may be nested. -/
def depthLimit : Nat := 80

/-- **A key**: names with dots between them and white space around them. -/
def key? (s : List Char) : Option (List String × List Char) := do
  let (names, rest) ← keyNames? (s.length + 1) s
  if names.length < depthLimit then some (names, rest) else none

end CloudDiagram.Toml
