import CloudDiagram.Number.Layout

/-!
# Numbers of a JSON document

* `Number`: an integer of at most 64 bits or a finite floating-point number;
* `jsonLayout`, `Number.chars`: how a number is written;
* `Number.toBinary64`, `Number.whole?`: what it denotes.
-/

namespace CloudDiagram.Json

/-- **A number**: an integer in the signed or the unsigned range of 64 bits, from `-2^63` up to
`2^64`, or a finite floating-point number. -/
inductive Number
  | integer (value : Int)
      (in_range : -9223372036854775808 ≤ value ∧ value < 18446744073709551616)
  | float (value : Binary64) (finite : value.isFinite = true)
  deriving DecidableEq

/-- The layout of floating-point numbers: an exponent below `0.00001` and from `1e+16` on, a
fraction on whole numbers, a tie to the even digit. -/
def jsonLayout : Layout := ⟨fun top => -5 ≤ top && top ≤ 15, ['.', '0'], .even⟩

namespace Number

/-- A 64-bit natural number. -/
def ofWord (w : UInt64) : Number :=
  .integer w.toNat ⟨by omega, by have := UInt64.toNat_lt w; omega⟩

/-- The text of a number. -/
def chars : Number → List Char
  | .integer i _ => Text.integer i
  | .float x _ => jsonLayout.write x

/-- The floating-point number nearest to a number. -/
def toBinary64 : Number → Binary64
  | .integer i _ => .ofInt i
  | .float x _ => x

/-- The natural number that a number denotes, if it denotes one. -/
def whole? : Number → Option Nat
  | .integer i _ => if 0 ≤ i then some i.toNat else none
  | .float x _ => x.whole?

/-- Equality of numbers of one sort, where the two floating-point zeros are equal. -/
def same : Number → Number → Bool
  | .integer i _, .integer j _ => i == j
  | .float x _, .float y _ => x.sameNumber y
  | _, _ => false

end Number

end CloudDiagram.Json
