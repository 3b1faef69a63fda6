import CloudDiagram.Json.Numeral

/-!
# Reading JSON

* `scanString`: a string to its closing quote;
* `readValue`: the value at the head of a text, with the faults that are met;
* `Document.ofText`: a whole text;
* `Value.ofText`: the value that a text denotes, or its first fault.
-/

namespace CloudDiagram.Json

/-- White space between the parts of a document. -/
def isGap (c : Char) : Bool := c == ' ' || c == '\t' || c == '\n' || c == '\r'

/-- The text from its first character on that is not white space. -/
def skipGaps (s : List Char) : List Char := s.dropWhile isGap

/-! ## Strings -/

/-- The value of a hexadecimal digit. -/
def hexValue? (c : Char) : Option Nat :=
  if '0' ≤ c && c ≤ '9' then some (c.toNat - '0'.toNat)
  else if 'a' ≤ c && c ≤ 'f' then some (c.toNat - 'a'.toNat + 10)
  else if 'A' ≤ c && c ≤ 'F' then some (c.toNat - 'A'.toNat + 10)
  else none

/-- The number of four hexadecimal digits and what follows them. -/
def hexQuad (s : List Char) : Except Fault (Nat × List Char) :=
  match s with
  | a :: b :: c :: d :: rest =>
    match hexValue? a, hexValue? b, hexValue? c, hexValue? d with
    | some w, some x, some y, some z => .ok (((w * 16 + x) * 16 + y) * 16 + z, rest)
    | _, _, _, _ => .error (.past .invalidEscape s 4)
  | _ =>
    .error (if byteCount s < 4 then .atEnd .endOfString else .past .invalidEscape s 4)

/-- What an escape stands for. -/
inductive Escape
  | char (c : Char) (rest : List Char)
  /-- Well formed, but half of a surrogate pair. -/
  | unusable (fault : Fault) (rest : List Char)
  | broken (fault : Fault)

/-- The second half of a surrogate pair. -/
def isTrailing (n : Nat) : Bool := 0xDC00 ≤ n && n ≤ 0xDFFF

/-- The first half of a surrogate pair. -/
def isLeading (n : Nat) : Bool := 0xD800 ≤ n && n ≤ 0xDBFF

/-- The character of a surrogate pair. -/
def pairChar (leading trailing : Nat) : Char :=
  Char.ofNat (0x10000 + (leading - 0xD800) * 0x400 + (trailing - 0xDC00))

/-- The escape whose first half has been read. -/
def pairEscape (leading : Nat) (rest : List Char) : Escape :=
  match rest with
  | [] => .broken (.atEnd .endOfString)
  | ['\\'] => .broken (.atEnd .endOfString)
  | '\\' :: 'u' :: more =>
    match hexQuad more with
    | .error f => .broken f
    | .ok (trailing, last) =>
      if isTrailing trailing then .char (pairChar leading trailing) last
      else .unusable (.past .loneSurrogate last 0) last
  | '\\' :: _ => .unusable (.past .brokenSurrogatePair rest 2) rest
  | _ => .unusable (.next .brokenSurrogatePair rest) rest

/-- An escape by code point, after its letter. -/
def codeEscape (s : List Char) : Escape :=
  match hexQuad s with
  | .error f => .broken f
  | .ok (n, rest) =>
    if isTrailing n then .unusable (.past .loneSurrogate rest 0) rest
    else if isLeading n then pairEscape n rest
    else .char (Char.ofNat n) rest

/-- The escape after a backslash. -/
def readEscape (s : List Char) : Escape :=
  match s with
  | [] => .broken (.atEnd .endOfString)
  | '"' :: rest => .char '"' rest
  | '\\' :: rest => .char '\\' rest
  | '/' :: rest => .char '/' rest
  | 'b' :: rest => .char '\x08' rest
  | 'f' :: rest => .char '\x0c' rest
  | 'n' :: rest => .char '\n' rest
  | 'r' :: rest => .char '\r' rest
  | 't' :: rest => .char '\t' rest
  | 'u' :: rest => codeEscape rest
  | _ => .broken (.next .invalidEscape s)

/-- **A string as it is scanned**: its characters, the first escape without a character, and what
follows the closing quote. -/
structure Scan where
  chars : List Char
  unusable : Option Fault
  ending : Except Fault (List Char)

/-- A scan with one more character before it. -/
def Scan.cons (c : Char) (s : Scan) : Scan := { s with chars := c :: s.chars }

/-- A scan that a fault stops. -/
def Scan.stop (f : Fault) : Scan := ⟨[], none, .error f⟩

/-- The string after an opening quote, of at most `fuel` characters. -/
def scanString : Nat → List Char → Scan
  | 0, _ => .stop (.atEnd .endOfString)
  | _ + 1, [] => .stop (.atEnd .endOfString)
  | fuel + 1, c :: rest =>
    if c = '"' then ⟨[], none, .ok rest⟩
    else if c = '\\' then
      match readEscape rest with
      | .char d more => (scanString fuel more).cons d
      | .unusable f more => { scanString fuel more with unusable := some f }
      | .broken f => .stop f
    else if c.toNat < 0x20 then .stop (.next .controlCharacter (c :: rest))
    else (scanString fuel rest).cons c

/-- A scanned string as a value. -/
def Scan.reading (s : Scan) : Reading :=
  match s.unusable, s.ending with
  | none, .ok rest => (.string (String.ofList s.chars), some rest)
  | none, .error f => .stop f
  | some g, .ok rest => (.unusable g .null, some rest)
  | some g, .error f => (.unusable g (.broken f), none)

/-! ## Values -/

/-- The letters of a literal after its first one. -/
def readLiteral (w : Written) : List Char → List Char → Reading
  | [], rest => (w, some rest)
  | _ :: _, [] => .stop (.atEnd .endOfValue)
  | e :: letters, c :: rest =>
    if e = c then readLiteral w letters rest else .stop (.next .expectedLiteral (c :: rest))

/-- How many lists and objects may be open at once. -/
def depthLimit : Nat := 127

/-- A list or an object that opens at a depth. -/
def atDepth (depth : Nat) (text : List Char) (w : Written) : Written :=
  if depth < depthLimit then w else .unusable (.next .tooDeep text) w

mutual

/-- **The value at the head of a text**, where `depth` lists and objects are open. -/
def readValue : Nat → Nat → List Char → Reading
  | 0, _, _ => .stop (.atEnd .endOfValue)
  | fuel + 1, depth, text =>
    match skipGaps text with
    | [] => .stop (.atEnd .endOfValue)
    | c :: rest =>
      if c = '"' then (scanString fuel rest).reading
      else if c = '[' then
        let (items, stop, left) := readItems fuel (depth + 1) true rest
        (atDepth depth (c :: rest) (.list items stop), left)
      else if c = '\x7b' then
        let (members, stop, left) := readMembers fuel (depth + 1) true rest
        (atDepth depth (c :: rest) (.object members stop), left)
      else if c = '-' then readNumeral true rest
      else if Text.isDigit c then readNumeral false (c :: rest)
      else if c = 'n' then readLiteral .null ['u', 'l', 'l'] rest
      else if c = 't' then readLiteral (.bool true) ['r', 'u', 'e'] rest
      else if c = 'f' then readLiteral (.bool false) ['a', 'l', 's', 'e'] rest
      else .stop (.next .expectedValue (c :: rest))

/-- The items of a list, from its opening bracket or from the end of an item on. -/
def readItems : Nat → Nat → Bool → List Char → List Written × Option Fault × Option (List Char)
  | 0, _, _, _ => ([], some (.atEnd .endOfList), none)
  | fuel + 1, depth, opening, text =>
    match skipGaps text with
    | [] => ([], some (.atEnd .endOfList), none)
    | c :: rest =>
      if c = ']' then ([], none, some rest)
      else if opening then readItem fuel depth (c :: rest)
      else if c = ',' then
        match skipGaps rest with
        | [] => ([], some (.atEnd .endOfValue), none)
        | d :: more =>
          if d = ']' then ([], some (.next .trailingComma (d :: more)), none)
          else readItem fuel depth (d :: more)
      else ([], some (.next .expectedCommaOrBracket (c :: rest)), none)

/-- An item of a list and the items after it. -/
def readItem : Nat → Nat → List Char → List Written × Option Fault × Option (List Char)
  | 0, _, _ => ([], some (.atEnd .endOfList), none)
  | fuel + 1, depth, text =>
    match readValue fuel depth text with
    | (item, none) => ([item], none, none)
    | (item, some rest) =>
      let (items, stop, left) := readItems fuel depth false rest
      (item :: items, stop, left)

/-- The members of an object, from its opening brace or from the end of a member on. -/
def readMembers : Nat → Nat → Bool → List Char →
    List (Except Fault String × Written) × Option Fault × Option (List Char)
  | 0, _, _, _ => ([], some (.atEnd .endOfObject), none)
  | fuel + 1, depth, opening, text =>
    match skipGaps text with
    | [] => ([], some (.atEnd .endOfObject), none)
    | c :: rest =>
      if c = '\x7d' then ([], none, some rest)
      else if opening then
        if c = '"' then readMember fuel depth rest
        else ([], some (.next .keyMustBeString (c :: rest)), none)
      else if c = ',' then
        match skipGaps rest with
        | [] => ([], some (.atEnd .endOfValue), none)
        | d :: more =>
          if d = '"' then readMember fuel depth more
          else if d = '\x7d' then ([], some (.next .trailingComma (d :: more)), none)
          else ([], some (.next .keyMustBeString (d :: more)), none)
      else ([], some (.next .expectedCommaOrBrace (c :: rest)), none)

/-- A member of an object, from the opening quote of its key on, and the members after it. -/
def readMember : Nat → Nat → List Char →
    List (Except Fault String × Written) × Option Fault × Option (List Char)
  | 0, _, _ => ([], some (.atEnd .endOfObject), none)
  | fuel + 1, depth, text =>
    let scan := scanString fuel text
    let key := match scan.unusable with
      | none => .ok (String.ofList scan.chars)
      | some g => .error g
    match scan.ending with
    | .error f =>
      match scan.unusable with
      | none => ([], some f, none)
      | some _ => ([(key, .broken f)], none, none)
    | .ok rest =>
      match skipGaps rest with
      | [] => ([(key, .broken (.atEnd .endOfObject))], none, none)
      | c :: more =>
        if c = ':' then
          match readValue fuel depth more with
          | (w, none) => ([(key, w)], none, none)
          | (w, some last) =>
            let (members, stop, left) := readMembers fuel depth false last
            ((key, w) :: members, stop, left)
        else ([(key, .broken (.next .expectedColon (c :: more)))], none, none)

end

/-! ## Whole texts -/

/-- **What a text holds**: its value as it is written, and the fault of what follows it. -/
structure Document where
  content : Written
  trailing : Option Fault

/-- The fault of what follows the value of a text. -/
def trailingFault (rest : List Char) : Option Fault :=
  match skipGaps rest with
  | [] => none
  | c :: more => some (.next .trailingCharacters (c :: more))

/-- **Reading a whole text.** Each step takes a character at least every third time, which bounds
their number. -/
def Document.ofText (text : List Char) : Document :=
  match readValue (3 * text.length + 3) 0 text with
  | (w, none) => ⟨w, none⟩
  | (w, some rest) => ⟨w, trailingFault rest⟩

/-- **The value that a text denotes**, or the first fault. -/
def Value.ofText (text : List Char) : Except Fault Value := do
  let d := Document.ofText text
  let v ← d.content.value
  proceed d.trailing
  return v

end CloudDiagram.Json
