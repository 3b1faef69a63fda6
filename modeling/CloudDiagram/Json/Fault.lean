/-!
# Faults of a JSON text

* `Cause`: what is wrong at a place where reading stops;
* `Fault`: a cause and its place, given by what of the text follows it;
* `Place`, `Fault.place`: the place as a line and a column of bytes.
-/

namespace CloudDiagram.Json

/-- **Why a text cannot be read on.** -/
inductive Cause
  | endOfList
  | endOfObject
  | endOfString
  | endOfValue
  | expectedColon
  | expectedCommaOrBracket
  | expectedCommaOrBrace
  | expectedLiteral
  | expectedValue
  | invalidEscape
  | invalidNumber
  | numberOutOfRange
  | loneSurrogate
  | brokenSurrogatePair
  | controlCharacter
  | keyMustBeString
  | trailingComma
  | trailingCharacters
  | tooDeep
  deriving DecidableEq

namespace Cause

/-- The wording of a cause. -/
def text : Cause → String
  | endOfList => "EOF while parsing a list"
  | endOfObject => "EOF while parsing an object"
  | endOfString => "EOF while parsing a string"
  | endOfValue => "EOF while parsing a value"
  | expectedColon => "expected `:`"
  | expectedCommaOrBracket => "expected `,` or `]`"
  | expectedCommaOrBrace => "expected `,` or `\x7d`"
  | expectedLiteral => "expected ident"
  | expectedValue => "expected value"
  | invalidEscape => "invalid escape"
  | invalidNumber => "invalid number"
  | numberOutOfRange => "number out of range"
  | loneSurrogate => "lone leading surrogate in hex escape"
  | brokenSurrogatePair => "unexpected end of hex escape"
  | controlCharacter => "control character (\\u0000-\\u001F) found while parsing a string"
  | keyMustBeString => "key must be a string"
  | trailingComma => "trailing comma"
  | trailingCharacters => "trailing characters"
  | tooDeep => "recursion limit exceeded"

/-- The text ended too early. -/
def isEnd : Cause → Bool
  | endOfList | endOfObject | endOfString | endOfValue => true
  | _ => false

end Cause

/-- The number of bytes of a text. -/
def byteCount (s : List Char) : Nat := s.foldl (fun n c => n + c.utf8Size) 0

/-- **A fault**: its cause, and its place, some bytes past the start of what is left of the text. -/
structure Fault where
  cause : Cause
  rest : List Char
  bytes : Nat
  deriving DecidableEq

/-- A fault at a number of bytes past the start of what is left of the text. -/
def Fault.past (cause : Cause) (rest : List Char) (bytes : Nat) : Fault := ⟨cause, rest, bytes⟩

/-- A fault at the next byte, or at the end of the text. -/
def Fault.next (cause : Cause) (rest : List Char) : Fault := .past cause rest 1

/-- A fault at the end of the text. -/
def Fault.atEnd (cause : Cause) : Fault := .past cause [] 0

/-- **A place in a text**: a line, counted from one on, and the bytes of that line up to the place. -/
structure Place where
  line : Nat
  column : Nat
  deriving DecidableEq

/-- The wording of a place. -/
def Place.text (p : Place) : String := "line " ++ toString p.line ++ " column " ++ toString p.column

/-- The place after some bytes of a text, from a place on. -/
def placeAfter : Nat → Place → List Char → Place
  | _, place, [] => place
  | bytes, place, c :: rest =>
    if bytes < c.utf8Size then ⟨place.line, place.column + bytes⟩
    else placeAfter (bytes - c.utf8Size)
      (if c = '\n' then ⟨place.line + 1, 0⟩ else ⟨place.line, place.column + c.utf8Size⟩) rest

/-- **The place of a fault** in its text. -/
def Fault.place (f : Fault) (text : List Char) : Place :=
  placeAfter (byteCount text - (byteCount f.rest - f.bytes)) ⟨1, 0⟩ text

end CloudDiagram.Json
