import CloudDiagram.Number.Binary64

/-!
# Shortest decimals

The fewest decimal digits that identify a magnitude.

* `RoundingInterval`: the values that round to a magnitude;
* `RoundingInterval.candidate?`: the multiple of a power of ten in the interval that is nearest to the
  magnitude;
* `shortest`: the digits of the coarsest power of ten with a multiple in the interval.
-/

namespace CloudDiagram

/-- Which of two equally near neighbours is taken. -/
inductive Tie
  | even
  | up
  deriving DecidableEq

/-- **A decimal numeral** `digits * 10 ^ exponent`. -/
structure Decimal where
  digits : Nat
  exponent : Int
  deriving DecidableEq

/-- **The values that round to a magnitude**, counted in `2 ^ exponent`: from `low` to `high`, with the
magnitude itself between them. The ends belong to the interval if it is closed. -/
structure RoundingInterval where
  low : Nat
  value : Nat
  high : Nat
  exponent : Int
  closed : Bool

namespace RoundingInterval

/-- The interval of a rank, half-way to its neighbours. Powers of two that its numbers share are
taken out. -/
def ofRank (rank : Nat) : RoundingInterval :=
  let shared := doublings rank - 1
  { low := (units (rank - 1) + units rank) / twoTo shared
    value := 2 * units rank / twoTo shared
    high := (units rank + units (rank + 1)) / twoTo shared
    exponent := shared - 1075
    closed := rank % 2 = 0 }

/-- The interval holds the value `num / den`. -/
def holds (i : RoundingInterval) (num den : Nat) : Bool :=
  if i.closed then i.low * den ≤ num && num ≤ i.high * den
  else i.low * den < num && num < i.high * den

/-- Among the multiples of `10 ^ exponent` in the interval, the one that is nearest to the
magnitude. -/
def candidate? (tie : Tie) (i : RoundingInterval) (exponent : Int) : Option Nat :=
  let scale := tenTo exponent.toNat * twoTo (-i.exponent).toNat
  let den := tenTo (-exponent).toNat * twoTo i.exponent.toNat
  let value := i.value * den
  let below := value / scale
  let fitsBelow := i.holds (below * scale) den
  let fitsAbove := i.holds ((below + 1) * scale) den
  if fitsBelow && fitsAbove then
    let twice := 2 * (value % scale)
    if twice < scale then some below
    else if scale < twice then some (below + 1)
    else match tie with
      | .up => some (below + 1)
      | .even => some (if below % 2 = 0 then below else below + 1)
  else if fitsBelow then some below
  else if fitsAbove then some (below + 1)
  else none

/-- A power of ten that is larger than the magnitude, though by less than three places: the factor is
the logarithm of two. -/
def topExponent (i : RoundingInterval) : Int :=
  (Nat.log2 i.value + i.exponent + 1) * 30103 / 100000 + 1

end RoundingInterval

/-- A numeral without trailing zeros, by at most `fuel` cuts. -/
def Decimal.strip (d : Decimal) : Nat → Decimal
  | 0 => d
  | fuel + 1 =>
    if d.digits % 10 = 0 && d.digits != 0 then Decimal.strip ⟨d.digits / 10, d.exponent + 1⟩ fuel
    else d

/-- **The shortest decimal** that rounds to a positive finite rank, and of the shortest the nearest.
Seventeen digits always suffice. -/
def shortest (tie : Tie) (rank : Nat) : Decimal :=
  let i := RoundingInterval.ofRank rank
  let top := i.topExponent
  let found := (List.range 20).findSome? fun n : Nat =>
    (i.candidate? tie (top - n)).map fun d => Decimal.mk d (top - n)
  (found.getD ⟨0, 0⟩).strip 17

end CloudDiagram
