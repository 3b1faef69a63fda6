/-!
# Timestamps

* `Instant`: seconds since the beginning of 1970 and the nanoseconds of the last one;
* `Instant.ofUnix?`: an instant that the calendar covers;
* `civil`: the date of a day;
* `Instant.text`: the date and the time of day to the millisecond, in universal time.
-/

namespace CloudDiagram

/-- **An instant.** The last second of a minute may last for two, which is a leap second. -/
structure Instant where
  seconds : Int
  nanos : Nat
  deriving DecidableEq

/-- The length of a second. -/
def nanosPerSecond : Nat := 1000000000

/-- A date of the Gregorian calendar. -/
structure Date where
  year : Int
  month : Nat
  day : Nat
  deriving DecidableEq

/-- **The date of a day**, counted from the first of January 1970. Years are counted from the first
of March on and in eras of four hundred, of 146097 days each. -/
def civil (days : Int) : Date :=
  let shifted := days + 719468
  let era := shifted.fdiv 146097
  let dayOfEra := (shifted.fmod 146097).toNat
  let yearOfEra := (dayOfEra - dayOfEra / 1460 + dayOfEra / 36524 - dayOfEra / 146096) / 365
  let dayOfYear := dayOfEra - (365 * yearOfEra + yearOfEra / 4 - yearOfEra / 100)
  let shiftedMonth := (5 * dayOfYear + 2) / 153
  let month := if shiftedMonth < 10 then shiftedMonth + 3 else shiftedMonth - 9
  ⟨yearOfEra + era * 400 + (if month ≤ 2 then 1 else 0), month,
    dayOfYear - (153 * shiftedMonth + 2) / 5 + 1⟩

/-- A number with leading zeros, at least `width` digits. -/
def padded (width n : Nat) : String :=
  let digits := toString n
  String.ofList (List.replicate (width - digits.length) '0') ++ digits

/-- A year: four digits, and a sign where they do not suffice. -/
def yearText (year : Int) : String :=
  if year < 0 then "-" ++ padded 4 year.natAbs
  else if 9999 < year then "+" ++ padded 4 year.natAbs
  else padded 4 year.natAbs

namespace Instant

/-- The day of an instant. -/
def day (t : Instant) : Int := t.seconds.fdiv 86400

/-- The second of the day. -/
def secondOfDay (t : Instant) : Nat := (t.seconds.fmod 86400).toNat

/-- The first and the last year of the calendar. -/
def yearRange : Int × Int := (-262143, 262142)

/-- **An instant that the calendar covers.** A second may be a leap second only at the end of a
minute. -/
def ofUnix? (seconds : Int) (nanos : Nat) : Option Instant :=
  let t : Instant := ⟨seconds, nanos⟩
  let year := (civil t.day).year
  if nanos < 2 * nanosPerSecond && (nanos < nanosPerSecond || t.secondOfDay % 60 == 59) &&
      yearRange.1 ≤ year && year ≤ yearRange.2 then some t
  else none

/-- **The text of an instant**, as in `2024-05-01T12:30:00.000Z`. -/
def text (t : Instant) : String :=
  let date := civil t.day
  let s := t.secondOfDay
  let leap := nanosPerSecond ≤ t.nanos
  let second := if leap then s % 60 + 1 else s % 60
  let nanos := if leap then t.nanos - nanosPerSecond else t.nanos
  yearText date.year ++ "-" ++ padded 2 date.month ++ "-" ++ padded 2 date.day ++ "T" ++
    padded 2 (s / 3600) ++ ":" ++ padded 2 (s / 60 % 60) ++ ":" ++ padded 2 second ++ "." ++
    padded 3 (nanos / 1000000) ++ "Z"

end Instant

end CloudDiagram
