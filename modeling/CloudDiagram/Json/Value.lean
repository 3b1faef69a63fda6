import CloudDiagram.Json.Number

/-!
# JSON values and their text

* `Value`: a JSON value, the members of an object in the order in which they are written;
* `escapeChar`, `stringChars`: a string between double quotes;
* `Value.compact`: the text without any white space;
* `Value.pretty`: the text with one item or member a line and two spaces a level.
-/

namespace CloudDiagram.Json

/-- **A JSON value.** -/
inductive Value
  | null
  | bool (b : Bool)
  | number (n : Number)
  | string (s : String)
  | list (items : List Value)
  | object (members : List (String × Value))

/-- A floating-point number as a value; what is not finite has no number. -/
def Value.ofBinary64 (x : Binary64) : Value :=
  if h : x.isFinite = true then .number (.float x h) else .null

/-- A natural number below `2^64` as a value. -/
def Value.ofNat (n : Nat) : Value := .number (.ofWord (UInt64.ofNat n))

/-- The text or nothing, as a string or null. -/
def Value.ofOption : Option String → Value
  | none => .null
  | some s => .string s

/-! ## Strings -/

/-- A code point below 256 as an escape of four hexadecimal digits. -/
def escapeCode (n : Nat) : List Char :=
  ['\\', 'u', '0', '0', Nat.digitChar (n / 16), Nat.digitChar (n % 16)]

/-- **A character inside a string**: only quotes, backslashes and the characters below the space are
escaped. -/
def escapeChar (c : Char) : List Char :=
  match c with
  | '"' => ['\\', '"']
  | '\\' => ['\\', '\\']
  | '\x08' => ['\\', 'b']
  | '\x0c' => ['\\', 'f']
  | '\n' => ['\\', 'n']
  | '\r' => ['\\', 'r']
  | '\t' => ['\\', 't']
  | _ => if c.toNat < 0x20 then escapeCode c.toNat else [c]

/-- A string between double quotes. -/
def stringChars (s : String) : List Char := '"' :: (s.toList.flatMap escapeChar ++ ['"'])

/-! ## Compact text -/

mutual

/-- The compact text of a value. -/
def Value.chars : Value → List Char
  | .null => ['n', 'u', 'l', 'l']
  | .bool true => ['t', 'r', 'u', 'e']
  | .bool false => ['f', 'a', 'l', 's', 'e']
  | .number n => n.chars
  | .string s => stringChars s
  | .list items => '[' :: (itemChars items ++ [']'])
  | .object members => '\x7b' :: (memberChars members ++ ['\x7d'])

/-- Items with commas between them. -/
def itemChars : List Value → List Char
  | [] => []
  | [v] => v.chars
  | v :: rest => v.chars ++ ',' :: itemChars rest

/-- Members with commas between them. -/
def memberChars : List (String × Value) → List Char
  | [] => []
  | [(k, v)] => stringChars k ++ ':' :: v.chars
  | (k, v) :: rest => stringChars k ++ ':' :: (v.chars ++ ',' :: memberChars rest)

end

/-- **The compact text of a value.** -/
def Value.compact (v : Value) : String := String.ofList v.chars

/-! ## Pretty text -/

/-- The start of a line at a level. -/
def newLine (level : Nat) : List Char := '\n' :: List.replicate (2 * level) ' '

mutual

/-- The pretty text of a value whose first line is already indented. -/
def Value.prettyChars (level : Nat) : Value → List Char
  | .list [] => ['[', ']']
  | .list (v :: rest) =>
    '[' :: (newLine (level + 1) ++ v.prettyChars (level + 1) ++ prettyItems level rest)
  | .object [] => ['\x7b', '\x7d']
  | .object ((k, v) :: rest) =>
    '\x7b' :: (newLine (level + 1) ++ stringChars k ++ ':' :: ' ' :: v.prettyChars (level + 1) ++
      prettyMembers level rest)
  | v => v.chars

/-- The items of a list after its first one, to the closing bracket. -/
def prettyItems (level : Nat) : List Value → List Char
  | [] => newLine level ++ [']']
  | v :: rest => ',' :: (newLine (level + 1) ++ v.prettyChars (level + 1) ++ prettyItems level rest)

/-- The members of an object after its first one, to the closing brace. -/
def prettyMembers (level : Nat) : List (String × Value) → List Char
  | [] => newLine level ++ ['\x7d']
  | (k, v) :: rest =>
    ',' :: (newLine (level + 1) ++ stringChars k ++ ':' :: ' ' :: v.prettyChars (level + 1) ++
      prettyMembers level rest)

end

/-- **The pretty text of a value.** -/
def Value.pretty (v : Value) : String := String.ofList (v.prettyChars 0)

end CloudDiagram.Json
