import CloudDiagram.Number.Reading
import CloudDiagram.Toml.Lexeme

/-!
# Numbers and dates of a configuration file

* `integer?`: a decimal integer, or one with a base;
* `float?`: a floating-point number;
* `moment?`: a date, a time or both.
-/

namespace CloudDiagram.Toml

open Text

/-- **Digits with single underscores between them**: the digits and what follows. -/
def digits? (isMember : Char → Bool) : Nat → List Char → Option (List Char × List Char)
  | 0, _ => none
  | _ + 1, [] => none
  | fuel + 1, c :: rest =>
    if !isMember c then none
    else match rest with
      | '_' :: more => consChar c (digits? isMember fuel more)
      | d :: _ =>
        if isMember d then consChar c (digits? isMember fuel rest) else some ([c], rest)
      | [] => some ([c], [])

/-- A row of decimal digits. -/
def decimalDigits? (s : List Char) : Option (List Char × List Char) := digits? isDigit (s.length + 1) s

/-- The sign at the head of a text. -/
def takeSign : List Char → Bool × List Char
  | '+' :: rest => (false, rest)
  | '-' :: rest => (true, rest)
  | s => (false, s)

/-- The digits of a number, where a zero stands alone. -/
def wholeDigits? (s : List Char) : Option (List Char × List Char) :=
  match s with
  | '0' :: rest => some (['0'], rest)
  | _ => decimalDigits? s

/-- A number of the signed range of 64 bits. -/
def inRange? (i : Int) : Option Int :=
  if Int64.minValue.toInt ≤ i && i ≤ Int64.maxValue.toInt then some i else none

/-- A digit below a base. -/
def isDigitOf (base : Nat) (c : Char) : Bool := (hexValue? c).any (· < base)

/-- An integer with a base, after its mark. -/
def basedInteger? (base : Nat) (s : List Char) : Option (Int × List Char) := do
  let (digits, rest) ← digits? (isDigitOf base) (s.length + 1) s
  let n := digits.foldl (fun n c => base * n + (hexValue? c).getD 0) 0
  let i ← inRange? n
  some (i, rest)

/-- **An integer.** -/
def integer? (s : List Char) : Option (Int × List Char) :=
  match s with
  | '0' :: 'x' :: rest => basedInteger? 16 rest
  | '0' :: 'o' :: rest => basedInteger? 8 rest
  | '0' :: 'b' :: rest => basedInteger? 2 rest
  | _ => do
    let (negative, unsigned) := takeSign s
    let (digits, rest) ← wholeDigits? unsigned
    let n : Int := digitsValue digits
    let i ← inRange? (if negative then -n else n)
    some (i, rest)

/-- An exponent part: its sign, its digits and what follows. -/
def exponent? (s : List Char) : Option (Int × List Char) :=
  match s with
  | mark :: rest =>
    if mark == 'e' || mark == 'E' then do
      let (negative, unsigned) := takeSign rest
      let (digits, more) ← decimalDigits? unsigned
      let n : Int := digitsValue digits
      some (if negative then -n else n, more)
    else none
  | [] => none

/-- A fraction: its digits and what follows. -/
def fraction? (s : List Char) : Option (List Char × List Char) :=
  match s with
  | '.' :: rest => decimalDigits? rest
  | _ => none

/-- An exponent after a fraction, which may be left out but not be malformed. -/
def optionalExponent? (s : List Char) : Option (Int × List Char) :=
  match s with
  | mark :: _ => if mark == 'e' || mark == 'E' then exponent? s else some (0, s)
  | [] => some (0, s)

/-- A number with a fraction or an exponent. A positive one that is too large is refused. -/
def decimalFloat? (s : List Char) : Option (Binary64 × List Char) := do
  let (negative, unsigned) := takeSign s
  let (whole, rest) ← wholeDigits? unsigned
  let (fraction, exponent, last) ←
    match fraction? rest with
    | some (fraction, more) => (optionalExponent? more).map fun (e, last) => (fraction, e, last)
    | none => (exponent? rest).map fun (e, last) => ([], e, last)
  let x := scaled negative (digitsValue (whole ++ fraction)) (exponent - fraction.length)
  if x = .infinite false then none else some (x, last)

/-- **A floating-point number**, which may be infinite or not a number. -/
def float? (s : List Char) : Option (Binary64 × List Char) :=
  match takeSign s with
  | (negative, 'i' :: 'n' :: 'f' :: rest) => some (.infinite negative, rest)
  | (_, 'n' :: 'a' :: 'n' :: rest) => some (.nan, rest)
  | _ => decimalFloat? s

/-! ## Dates and times -/

/-- A number of exactly so many digits, in a range. -/
def field? (width low high : Nat) (s : List Char) : Option (Nat × List Char) :=
  let digits := s.take width
  let n := digitsValue digits
  if digits.length = width && digits.all isDigit && low ≤ n && n ≤ high then
    some (n, s.drop width)
  else none

/-- A character that has to be there. -/
def mark? (c : Char) (s : List Char) : Option (List Char) :=
  match s with
  | d :: rest => if d = c then some rest else none
  | [] => none

/-- The days of a month. -/
def daysOfMonth (year month : Nat) : Nat :=
  if month = 2 then
    if year % 4 = 0 && (year % 100 != 0 || year % 400 = 0) then 29 else 28
  else if month = 4 || month = 6 || month = 9 || month = 11 then 30
  else 31

/-- What follows a date. -/
def date? (s : List Char) : Option (List Char) := do
  let (year, rest) ← field? 4 0 9999 s
  let (month, rest) ← field? 2 1 12 (← mark? '-' rest)
  let (_, rest) ← field? 2 1 (daysOfMonth year month) (← mark? '-' rest)
  some rest

/-- What follows the fraction of a second, if there is one. -/
def skipFraction (s : List Char) : List Char :=
  match s with
  | '.' :: rest => if rest.head?.any isDigit then rest.dropWhile isDigit else s
  | _ => s

/-- What follows a time of day. -/
def time? (s : List Char) : Option (List Char) := do
  let (_, rest) ← field? 2 0 23 s
  let (_, rest) ← field? 2 0 59 (← mark? ':' rest)
  let (_, rest) ← field? 2 0 60 (← mark? ':' rest)
  some (skipFraction rest)

/-- What follows the distance from universal time, if it is given and well formed. -/
def offset? (s : List Char) : Option (List Char) :=
  match s with
  | [] => some s
  | c :: rest =>
    if c == 'Z' || c == 'z' then some rest
    else if c == '+' || c == '-' then do
      let (_, more) ← field? 2 0 23 rest
      let (_, more) ← field? 2 0 59 (← mark? ':' more)
      some more
    else some s

/-- **What follows a date, a time or both.** -/
def moment? (s : List Char) : Option (List Char) :=
  match date? s with
  | none => time? s
  | some rest =>
    match rest with
    | c :: more =>
      if c == 'T' || c == 't' || c == ' ' then
        match time? more with
        | none => some rest
        | some last => offset? last
      else some rest
    | [] => some rest

end CloudDiagram.Toml
