import CloudDiagram.Number.Binary64
import CloudDiagram.Text.Decimal

/-!
# Reading floating-point numbers

* `scaled`: the number nearest to a decimal;
* `decimal?`: digits with a point and an exponent;
* `Binary64.ofText?`: a number written as a person or a configuration file writes it.
-/

namespace CloudDiagram

open Text

/-- The number nearest to `digits * 10 ^ exponent`. Beyond four hundred places from the point the
answer is infinity or zero, and the power is not computed. -/
def scaled (negative : Bool) (digits : Nat) (exponent : Int) : Binary64 :=
  let places := ((numeral digits).length : Int) + exponent
  if digits = 0 || places < -400 then .ofRank negative 0 (Nat.zero_le _)
  else if 400 < places then .infinite negative
  else .ofRatio negative (digits * tenTo exponent.toNat) (tenTo (-exponent).toNat)

/-- An exponent part, `e` and all: its value, or nothing if it is malformed. An absent one is
zero. -/
def exponentPart? : List Char → Option Int
  | [] => some 0
  | mark :: rest =>
    if mark != 'e' && mark != 'E' then none
    else match rest with
      | '+' :: digits => (natural? digits).map (Int.ofNat ·)
      | '-' :: digits => (natural? digits).map (-Int.ofNat ·)
      | digits => (natural? digits).map (Int.ofNat ·)

/-- Digits with an optional point among them and an optional exponent. At least one digit stands
before the exponent. -/
def decimal? (negative : Bool) (s : List Char) : Option Binary64 := do
  let before := s.takeWhile isDigit
  let rest := s.dropWhile isDigit
  let after := match rest with | '.' :: r => r.takeWhile isDigit | _ => []
  let last := match rest with | '.' :: r => r.dropWhile isDigit | _ => rest
  if before.isEmpty && after.isEmpty then none
  else
    let exponent ← exponentPart? last
    some (scaled negative (digitsValue (before ++ after)) (exponent - after.length))

/-- An infinity or not a number, by name in any letter case. -/
def named? (negative : Bool) (s : List Char) : Option Binary64 :=
  match String.ofList (s.map asciiLower) with
  | "inf" => some (.infinite negative)
  | "infinity" => some (.infinite negative)
  | "nan" => some .nan
  | _ => none

/-- A number without its sign. -/
def unsigned? (negative : Bool) (s : List Char) : Option Binary64 :=
  (named? negative s).or (decimal? negative s)

/-- **A number read from text**, correctly rounded: an optional sign, then a name or a decimal. -/
def Binary64.ofText? (s : String) : Option Binary64 :=
  match s.toList with
  | '+' :: rest => unsigned? false rest
  | '-' :: rest => unsigned? true rest
  | rest => unsigned? false rest

end CloudDiagram
