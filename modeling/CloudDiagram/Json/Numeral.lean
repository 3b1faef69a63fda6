import CloudDiagram.Json.Written

/-!
# Reading numerals

A numeral is read into a significand of 64 bits and a power of ten, and the two are multiplied or
divided as floating-point numbers. So a numeral of many digits need not become the nearest number.

* `Scaled.ofDigits`: the significand and the exponent of digits before and after the point;
* `Scaled.toBinary64?`: their product, unless it is too large;
* `readNumeral`: the numeral at the head of a text.
-/

namespace CloudDiagram.Json

open Text

/-- **A significand and a power of ten.** -/
structure Scaled where
  significand : Nat
  exponent : Int

namespace Scaled

/-- One more digit before the point. A digit that does not fit into 64 bits, and every digit after
it, only raises the exponent. -/
def integerDigit (s : Scaled) (digit : Nat) : Scaled :=
  if s.exponent = 0 && 10 * s.significand + digit < UInt64.size then ⟨10 * s.significand + digit, 0⟩
  else ⟨s.significand, s.exponent + 1⟩

/-- Digits after the point, until one does not fit into 64 bits. -/
def fraction (s : Scaled) : List Char → Scaled
  | [] => s
  | c :: rest =>
    let n := 10 * s.significand + digitValue c
    if n < UInt64.size then Scaled.fraction ⟨n, s.exponent - 1⟩ rest else s

/-- **The significand and the exponent of digits** before and after the point. -/
def ofDigits (before after : List Char) : Scaled :=
  (before.foldl (fun s c => integerDigit s (digitValue c)) (Scaled.mk 0 0)).fraction after

/-- Division by `10 ^ places`, at most `10 ^ 308` at a time, until nothing is left. -/
def divide (x : Binary64) (places : Nat) : Nat → Binary64
  | 0 => x
  | fuel + 1 =>
    if places ≤ 308 then x.div (.ofNat (tenTo places))
    else if x.isZero then x
    else divide (x.div (.ofNat (tenTo 308))) (places - 308) fuel

/-- **The number of a significand and an exponent**, by one multiplication or by divisions; nothing
if it is too large. -/
def toBinary64? (negative : Bool) (s : Scaled) : Option Binary64 :=
  let magnitude := Binary64.ofNat s.significand
  let result :=
    if s.exponent < 0 then some (divide magnitude s.exponent.natAbs 4)
    else if s.exponent ≤ 308 then some (magnitude.mul (.ofNat (tenTo s.exponent.toNat)))
    else if magnitude.isZero then some magnitude
    else none
  match result with
  | none => none
  | some x => if x.isFinite then some (if negative then x.neg else x) else none

end Scaled

/-- A floating-point number as something written. -/
def Written.ofBinary64 (x : Binary64) : Written :=
  if h : x.isFinite = true then .number (.float x h) else .null

/-- A significand without a point or an exponent: an integer if it fits, else a floating-point
number. Zero with a sign is a floating-point number. -/
def Written.ofInteger (negative : Bool) (n : Nat) : Written :=
  let i : Int := if negative then -n else n
  if h : (-9223372036854775808 ≤ i ∧ i < 18446744073709551616) ∧ (negative = true → n ≠ 0) then
    .number (.integer i h.1)
  else .ofBinary64 (if negative then (Binary64.ofNat n).neg else .ofNat n)

/-- What is read at the head of a text, and what is left unless reading stops. -/
abbrev Reading := Written × Option (List Char)

/-- A fault that stops reading. -/
def Reading.stop (f : Fault) : Reading := (.broken f, none)

/-- A numeral that the end of the text cuts off. -/
def Reading.cutNumeral : Reading :=
  (.unusable (.atEnd .endOfValue) (.broken (.atEnd .invalidNumber)), none)

/-- The value of an exponent, or what is left after the digit that makes it too large. -/
def exponentValue (n : Nat) : List Char → Except (List Char) Nat
  | [] => .ok n
  | c :: rest =>
    if isDigit c then
      let m := 10 * n + digitValue c
      if m < twoTo 31 then exponentValue m rest else .error rest
    else .ok n

/-- A finished numeral, which may be out of range. -/
def Reading.ofScaled (negative : Bool) (s : Scaled) (rest : List Char) : Reading :=
  match s.toBinary64? negative with
  | some x => (.ofBinary64 x, some rest)
  | none => (.unusable (.past .numberOutOfRange rest 0) .null, some rest)

/-- A numeral from its exponent on, the sign of the exponent already read. -/
def readExponent (negative : Bool) (s : Scaled) (raises : Bool) (digits : List Char) : Reading :=
  match digits with
  | [] => .cutNumeral
  | c :: _ =>
    if !isDigit c then .stop (.next .invalidNumber digits)
    else
      let rest := digits.dropWhile isDigit
      match exponentValue 0 digits with
      | .ok e =>
        .ofScaled negative ⟨s.significand, if raises then s.exponent + e else s.exponent - e⟩ rest
      | .error after =>
        if raises && s.significand != 0 then
          (.unusable (.past .numberOutOfRange after 0) .null, some rest)
        else (.ofBinary64 (.ofRank negative 0 (Nat.zero_le _)), some rest)

/-- A numeral after its digits, where an exponent may follow. -/
def readScale (negative : Bool) (s : Scaled) (rest : List Char) : Option Reading :=
  match rest with
  | mark :: r =>
    if mark == 'e' || mark == 'E' then
      some (match r with
        | '+' :: digits => readExponent negative s true digits
        | '-' :: digits => readExponent negative s false digits
        | digits => readExponent negative s true digits)
    else none
  | [] => none

/-- A numeral after its integer digits. -/
def readFraction (negative : Bool) (before rest : List Char) : Reading :=
  match rest with
  | '.' :: r =>
    match r with
    | [] => .cutNumeral
    | c :: _ =>
      if !isDigit c then .stop (.next .invalidNumber r)
      else
        let s := Scaled.ofDigits before (r.takeWhile isDigit)
        let last := r.dropWhile isDigit
        (readScale negative s last).getD (.ofScaled negative s last)
  | _ =>
    let s := Scaled.ofDigits before []
    (readScale negative s rest).getD
      (if s.exponent = 0 then (.ofInteger negative s.significand, some rest)
      else .ofScaled negative s rest)

/-- **The numeral at the head of a text**, its sign already read. -/
def readNumeral (negative : Bool) (text : List Char) : Reading :=
  match text with
  | [] => .cutNumeral
  | c :: rest =>
    if !isDigit c then .stop (.next .invalidNumber text)
    else if c = '0' && rest.head?.any isDigit then .stop (.next .invalidNumber rest)
    else readFraction negative (text.takeWhile isDigit) (text.dropWhile isDigit)

end CloudDiagram.Json
