import CloudDiagram.Number.Shortest
import CloudDiagram.Text.Decimal

/-!
# Layouts of floating-point numbers

* `Layout`: the decisions that a number format makes;
* `Layout.write`: a number in a layout;
* `plainLayout`: the layout of coordinates in messages, which never has an exponent.
-/

namespace CloudDiagram

open Text

/-- The decisions of a number format. -/
structure Layout where
  /-- The power of ten of the leading digit with which a number is still written without an
  exponent. -/
  positional : Int → Bool
  /-- What follows the digits of a whole number. -/
  wholeMark : List Char
  /-- Which of two equally near shortest decimals is taken. -/
  tie : Tie

/-- Digits with a point among them, the leading digit standing for `10 ^ top`. -/
def positionalDigits (wholeMark : List Char) (digits : List Char) (top : Int) : List Char :=
  if top < 0 then
    ['0', '.'] ++ List.replicate (-top - 1).toNat '0' ++ digits
  else
    let places := top.toNat + 1
    if digits.length ≤ places then
      digits ++ List.replicate (places - digits.length) '0' ++ wholeMark
    else digits.take places ++ ['.'] ++ digits.drop places

/-- Digits with a point after the first one and an exponent, which carries its sign. -/
def scientificDigits (digits : List Char) (top : Int) : List Char :=
  digits.take 1 ++ (if digits.length ≤ 1 then [] else '.' :: digits.drop 1) ++
    ['e', if top < 0 then '-' else '+'] ++ numeral top.natAbs

/-- The text of a finite magnitude. -/
def Layout.writeRank (l : Layout) (rank : Nat) : List Char :=
  if rank = 0 then '0' :: l.wholeMark
  else
    let d := shortest l.tie rank
    let digits := numeral d.digits
    let top := d.exponent + digits.length - 1
    if l.positional top then positionalDigits l.wholeMark digits top
    else scientificDigits digits top

/-- **The text of a number in a layout.** -/
def Layout.write (l : Layout) : Binary64 → List Char
  | .nan => ['N', 'a', 'N']
  | .ofRank negative rank _ =>
    (if negative then ['-'] else []) ++
      if rank = infinityRank then ['i', 'n', 'f'] else l.writeRank rank

/-- Coordinates in messages: never an exponent, whole numbers bare, a tie upwards. -/
def plainLayout : Layout := ⟨fun _ => true, [], .up⟩

/-- The text of a coordinate in a message. -/
def Binary64.plain (x : Binary64) : String := String.ofList (plainLayout.write x)

end CloudDiagram
