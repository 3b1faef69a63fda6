import CloudDiagram.Text.CodeSet

/-!
# Quoted text

How a diagnostic shows a text that it found: between double quotes, every character visible.

* `quoteChar`: one character, escaped where it has no visible form;
* `quote`: the whole text.
-/

namespace CloudDiagram.Text

/-- The hexadecimal digits of a number, in lower case and without leading zeros. -/
def hexDigits (n : Nat) : List Char := Nat.toDigits 16 n

/-- A character by its number, as in `\u{200b}`. -/
def byNumber (c : Char) : List Char := ['\\', 'u', '\x7b'] ++ hexDigits c.toNat ++ ['\x7d']

/-- A character inside double quotes. -/
def quoteChar (c : Char) : List Char :=
  match c with
  | '\x00' => ['\\', '0']
  | '\t' => ['\\', 't']
  | '\r' => ['\\', 'r']
  | '\n' => ['\\', 'n']
  | '\\' => ['\\', '\\']
  | '"' => ['\\', '"']
  | _ => if isHidden c then byNumber c else [c]

/-- **A text between double quotes.** -/
def quote (s : String) : String :=
  String.ofList (['"'] ++ s.toList.flatMap quoteChar ++ ['"'])

end CloudDiagram.Text
