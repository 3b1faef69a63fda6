import CloudDiagram.Number.Power

/-!
# Binary floating-point numbers of 64 bits

A magnitude is given by its **rank**, the number of representable magnitudes below it, and its value
is counted in **units**, the least positive magnitude `2^-1074`.

* `units`: the value of a rank;
* `nearestRank`: the rank nearest to a quotient, ties to the even rank;
* `Binary64`: not a number, or a sign and a rank;
* `mul`, `div`, `ofNat`: correctly rounded operations.
-/

namespace CloudDiagram

/-- The number of finite magnitudes, which is the rank of infinity. -/
def infinityRank : Nat := 2047 * twoTo 52

/-- How often the spacing has doubled at a rank. -/
def doublings (rank : Nat) : Nat := rank / twoTo 52 - 1

/-- **The value of a rank**, in units of `2^-1074`. -/
def units (rank : Nat) : Nat :=
  (rank - doublings rank * twoTo 52) * twoTo (doublings rank)

/-- The integer nearest to a quotient; a tie goes to the even one. -/
def roundHalfEven (num den : Nat) : Nat :=
  let q := num / den
  let twice := 2 * (num % den)
  if twice < den then q
  else if den < twice then q + 1
  else if q % 2 = 0 then q else q + 1

/-- **The rank nearest to the value `num / den`**, both counted in units; a tie goes to the even
rank, and what lies too high goes to infinity. -/
def nearestRank (num den : Nat) : Nat :=
  let shift := Nat.log2 (num / den) - 52
  min infinityRank (shift * twoTo 52 + roundHalfEven num (den * twoTo shift))

/-- **A floating-point number**: not a number, or a sign and a rank. -/
inductive Binary64
  | nan
  | ofRank (negative : Bool) (rank : Nat) (rank_le : rank ≤ infinityRank)
  deriving DecidableEq

namespace Binary64

theorem nearestRank_le (num den : Nat) : nearestRank num den ≤ infinityRank := Nat.min_le_left _ _

/-- The number nearest to `num / den`. -/
def ofRatio (negative : Bool) (num den : Nat) : Binary64 :=
  .ofRank negative (nearestRank (num * twoTo 1074) den) (nearestRank_le _ _)

/-- The number nearest to a natural number. -/
def ofNat (n : Nat) : Binary64 := ofRatio false n 1

/-- Zero, without a sign. -/
def zero : Binary64 := .ofRank false 0 (Nat.zero_le _)

instance : Inhabited Binary64 := ⟨zero⟩

/-- An infinity. -/
def infinite (negative : Bool) : Binary64 := .ofRank negative infinityRank (Nat.le_refl _)

/-- The number with the opposite sign. -/
def neg : Binary64 → Binary64
  | .nan => .nan
  | .ofRank s r h => .ofRank (!s) r h

/-- The number nearest to an integer. -/
def ofInt (i : Int) : Binary64 :=
  if i < 0 then (ofNat i.natAbs).neg else ofNat i.natAbs

/-- Neither infinite nor not a number. -/
def isFinite : Binary64 → Bool
  | .nan => false
  | .ofRank _ r _ => r < infinityRank

/-- Zero, of either sign. -/
def isZero : Binary64 → Bool
  | .nan => false
  | .ofRank _ r _ => r == 0

/-- Equality as numbers: the two zeros are equal, and what is not a number equals nothing. -/
def sameNumber : Binary64 → Binary64 → Bool
  | .ofRank s r _, .ofRank t q _ => r == q && (s == t || r == 0)
  | _, _ => false

/-- The product of finite numbers, correctly rounded. -/
def mul : Binary64 → Binary64 → Binary64
  | .ofRank s r _, .ofRank t q _ => ofRatio (s != t) (units r * units q) (twoTo 2148)
  | _, _ => .nan

/-- The quotient of finite numbers by a divisor that is not zero, correctly rounded. -/
def div : Binary64 → Binary64 → Binary64
  | .ofRank s r _, .ofRank t q _ => ofRatio (s != t) (units r) (units q)
  | _, _ => .nan

/-- **The natural number that a number denotes**, if it denotes one. -/
def whole? : Binary64 → Option Nat
  | .nan => none
  | .ofRank s r _ =>
    if r == infinityRank || (s && r != 0) || units r % twoTo 1074 != 0 then none
    else some (units r / twoTo 1074)

/-- At least zero and at most one. -/
def isFraction : Binary64 → Bool
  | .nan => false
  | .ofRank s r _ => r == 0 || (!s && units r ≤ twoTo 1074)

end Binary64

end CloudDiagram
