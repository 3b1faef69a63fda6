/-!
# Blank characters

* `isBlank`: the white space of the Unicode standard;
* `trimChars`, `trim`: blanks cut off both ends;
* `words`: the maximal runs of characters that are not blank.
-/

namespace CloudDiagram.Text

/-- A character with the Unicode property `White_Space`. -/
def isBlank (c : Char) : Bool :=
  let n := c.toNat
  (9 ≤ n && n ≤ 13) || n == 0x20 || n == 0x85 || n == 0xA0 || n == 0x1680 ||
    (0x2000 ≤ n && n ≤ 0x200A) || n == 0x2028 || n == 0x2029 || n == 0x202F || n == 0x205F ||
    n == 0x3000

/-- The text without its leading blanks. -/
def trimStartChars (s : List Char) : List Char := s.dropWhile isBlank

/-- The text without its trailing blanks. -/
def trimEndChars (s : List Char) : List Char := (s.reverse.dropWhile isBlank).reverse

/-- The text without the blanks at either end. -/
def trimChars (s : List Char) : List Char := trimEndChars (trimStartChars s)

/-- `trimChars` on a string. -/
def trim (s : String) : String := String.ofList (trimChars s.toList)

/-- The string has a character that is not blank. -/
def hasInk (s : String) : Bool := s.toList.any (!isBlank ·)

/-- **The word a text begins with**, empty before a blank, and the words after it. -/
def splitWords : List Char → List Char × List (List Char)
  | [] => ([], [])
  | c :: rest =>
    let (word, later) := splitWords rest
    if isBlank c then ([], if word.isEmpty then later else word :: later) else (c :: word, later)

/-- The words of a text, in order. -/
def words (s : List Char) : List (List Char) :=
  let (word, later) := splitWords s
  if word.isEmpty then later else word :: later

/-- A control character, of the Unicode category `Cc`. -/
def isControl (c : Char) : Bool := c.toNat < 0x20 || (0x7F ≤ c.toNat && c.toNat ≤ 0x9F)

/-- An ASCII decimal digit. -/
def isDigit (c : Char) : Bool := '0' ≤ c && c ≤ '9'

/-- An ASCII letter or digit. -/
def isAlphanumeric (c : Char) : Bool :=
  isDigit c || ('a' ≤ c && c ≤ 'z') || ('A' ≤ c && c ≤ 'Z')

/-- The lower-case form of an ASCII capital; any other character is kept. -/
def asciiLower (c : Char) : Char :=
  if 'A' ≤ c && c ≤ 'Z' then Char.ofNat (c.toNat + 32) else c

/-- The string with its ASCII capitals in lower case. -/
def toAsciiLower (s : String) : String := String.ofList (s.toList.map asciiLower)

end CloudDiagram.Text
