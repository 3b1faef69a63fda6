import CloudDiagram.Text.Blank

/-!
# Decimal numerals

* `numeral`: the decimal digits of a natural number;
* `digitsValue`: the number that a row of digits denotes;
* `word?`: a 64-bit natural number read from text, with an optional plus sign.
-/

namespace CloudDiagram.Text

/-- The decimal digits of a natural number, without leading zeros. -/
def numeral (n : Nat) : List Char := Nat.toDigits 10 n

/-- The decimal text of an integer. -/
def integer (i : Int) : List Char :=
  if i < 0 then '-' :: numeral i.natAbs else numeral i.natAbs

/-- The value of one digit. -/
def digitValue (c : Char) : Nat := c.toNat - '0'.toNat

/-- **The number that a row of digits denotes.** -/
def digitsValue (digits : List Char) : Nat :=
  digits.foldl (fun n c => 10 * n + digitValue c) 0

/-- A non-empty row of digits, as a number. -/
def natural? (s : List Char) : Option Nat :=
  if s.isEmpty || !s.all isDigit then none else some (digitsValue s)

/-- **A natural number below 2^64**, written in digits after an optional plus sign; leading zeros
are allowed. -/
def word? (s : String) : Option UInt64 := do
  let n ← natural? (match s.toList with | '+' :: digits => digits | digits => digits)
  if n < UInt64.size then some (UInt64.ofNat n) else none

end CloudDiagram.Text
