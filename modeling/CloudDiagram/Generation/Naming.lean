import CloudDiagram.Diagram.Basic
import CloudDiagram.Number.Reading
import CloudDiagram.Text.LowerCase

/-!
# Names in generated text

* `slugify`, `Node.slug`: the words of a name in lower case, with hyphens;
* `terraformIdentifier`: the name of a resource;
* `dnsLabel`: the name of a cluster object;
* `hclString`: a string literal of a resource file;
* `commentText`: a text on the rest of a line;
* `yamlScalar`: a scalar of a manifest, plain where that is safe.
-/

namespace CloudDiagram

open Text

/-! ## Slugs -/

/-- Words with hyphens between them. -/
def hyphenated : List (List Char) → List Char
  | [] => []
  | [word] => word
  | word :: rest => word ++ '-' :: hyphenated rest

/-- **The words of a name** in lower case, with hyphens between them. -/
def slugify (name : String) : String :=
  String.ofList (hyphenated ((words name.toList).map lower))

/-- **The slug of a component**: of its name, else of its label, else the fallback. -/
def Node.slug (n : Node) (fallback : String) : String :=
  if (slugify n.name).isEmpty then
    match n.label with
    | some label => if (slugify label).isEmpty then fallback else slugify label
    | none => fallback
  else slugify n.name

/-! ## Identifiers and labels -/

/-- A character of an identifier; any other becomes an underscore. -/
def identifierChar (c : Char) : Char := if isAlphanumeric c || c == '_' then c else '_'

/-- The stem of an identifier, which is not empty and does not start with a digit. -/
def identifierStem (kind : List Char) : List Char :=
  match kind.map identifierChar with
  | [] => "component".toList
  | c :: rest => if isDigit c then '_' :: c :: rest else c :: rest

/-- **The identifier of a resource**: its kind and its number. -/
def terraformIdentifier (kind : String) (index : Nat) : String :=
  String.ofList (identifierStem kind.toList ++ '_' :: numeral index)

/-- A character of a label other than the hyphen. -/
def isLabelChar (c : Char) : Bool := ('a' ≤ c && c ≤ 'z') || isDigit c

/-- The characters of a label, with one hyphen in the place of others between them. The flag says
that a hyphen may follow. -/
def labelChars : Bool → List Char → List Char
  | _, [] => []
  | mayFollow, c :: rest =>
    if isLabelChar c then c :: labelChars true rest
    else if mayFollow then '-' :: labelChars false rest
    else labelChars false rest

/-- The text without the hyphens at its end. -/
def dropHyphens (s : List Char) : List Char := (s.reverse.dropWhile (· == '-')).reverse

/-- **The name of a cluster object**: small letters, digits and single hyphens, at most sixty-three
characters. -/
def dnsLabel (raw : String) : String :=
  match dropHyphens ((labelChars false (raw.toList.flatMap lowerChar)).take 63) with
  | [] => "component"
  | label => String.ofList label

/-! ## Literals -/

/-- The characters of a string literal. A dollar or percent sign before a brace is doubled, since it
would open a template. -/
def hclChars : List Char → List Char
  | [] => []
  | c :: rest =>
    (match c with
    | '"' => ['\\', '"']
    | '\\' => ['\\', '\\']
    | '\n' => ['\\', 'n']
    | '\r' => ['\\', 'r']
    | '\t' => ['\\', 't']
    | '$' => if rest.head? = some '\x7b' then ['$', '$'] else ['$']
    | '%' => if rest.head? = some '\x7b' then ['%', '%'] else ['%']
    | _ => [c]) ++ hclChars rest

/-- **A string literal of a resource file.** -/
def hclString (value : String) : String :=
  String.ofList ('"' :: (hclChars value.toList ++ ['"']))

/-- A character that some reader takes for the end of a line. -/
def isLineBreak (c : Char) : Bool :=
  c == '\n' || c == '\r' || c == '\u0085' || c == '\u2028' || c == '\u2029'

/-- **A text on the rest of a line**: line breaks and controls become spaces. -/
def commentText (value : String) : String :=
  String.ofList (value.toList.map fun c => if isLineBreak c || isControl c then ' ' else c)

/-! ## Scalars -/

/-- A character of a quoted scalar. -/
def yamlChar (c : Char) : List Char :=
  match c with
  | '\u0085' => ['\\', 'u', '0', '0', '8', '5']
  | '\u2028' => ['\\', 'u', '2', '0', '2', '8']
  | '\u2029' => ['\\', 'u', '2', '0', '2', '9']
  | _ => Json.escapeChar c

/-- A character that may stand in a plain scalar. -/
def isPlainChar (c : Char) : Bool :=
  isAlphanumeric c || c == ' ' || c == '-' || c == '_' || c == '.' || c == '/'

/-- A character with which a number or a date may start. -/
def startsNumber (c : Char) : Bool := isDigit c || c == '-' || c == '+' || c == '.'

/-- The words that mean something other than themselves, in lower case. -/
def reservedWords : List String :=
  ["true", "false", "yes", "no", "on", "off", "y", "n", "null", "~"]

/-- The text stands for itself without quotes. -/
def isPlainScalar (value : String) : Bool :=
  !value.isEmpty && trim value == value && value.toList.all isPlainChar &&
    !value.toList.head?.any startsNumber && !reservedWords.contains (toAsciiLower value) &&
    (Binary64.ofText? value).isNone

/-- **A scalar of a manifest.** -/
def yamlScalar (value : String) : String :=
  if isPlainScalar value then value
  else String.ofList ('"' :: (value.toList.flatMap yamlChar ++ ['"']))

end CloudDiagram
