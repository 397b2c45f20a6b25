import LiveCounter.Text.Decimal

/-!
# Timestamps

A timestamp is an instant of universal time, counted in seconds from the start of 1970, with
nanoseconds. The second before a minute's end may be a leap second, with more than a thousand
million nanoseconds. The text is that of RFC 3339 in the proleptic Gregorian calendar: three, six
or nine decimals as needed, and a sign on years that do not have four digits.
-/

namespace LiveCounter

/-- A day of the proleptic Gregorian calendar. -/
structure CalendarDay where
  year : Int
  month : Nat
  day : Nat
  deriving DecidableEq, Repr

namespace CalendarDay

/-- The day that lies the given number of days after the first of January 1970.

Years are taken to begin in March, so that a leap day is the last day of its year, and are counted
in eras of 400 years, which all have the same length. -/
def ofEpochDay (epochDay : Int) : CalendarDay :=
  let shifted := epochDay + 719468
  let era := shifted / 146097
  let dayOfEra := (shifted % 146097).toNat
  let yearOfEra := (dayOfEra - dayOfEra / 1460 + dayOfEra / 36524 - dayOfEra / 146096) / 365
  let dayOfYear := dayOfEra - (365 * yearOfEra + yearOfEra / 4 - yearOfEra / 100)
  let marchMonth := (5 * dayOfYear + 2) / 153
  let day := dayOfYear - (153 * marchMonth + 2) / 5 + 1
  let month := if marchMonth < 10 then marchMonth + 3 else marchMonth - 9
  let year := (yearOfEra : Int) + era * 400 + (if month ≤ 2 then 1 else 0)
  { year, month, day }

end CalendarDay

/-- An instant of universal time. -/
structure Timestamp where
  seconds : Int
  nanos : Nat
  deriving DecidableEq, Repr

namespace Timestamp

/-- Seconds in a day. -/
def perDay : Int := 86400

/-- The years whose instants are timestamps. -/
def minYear : Int := -262143

/-- The last year whose instants are timestamps. -/
def maxYear : Int := 262142

/-- The day on which an instant falls. -/
def day (timestamp : Timestamp) : CalendarDay :=
  CalendarDay.ofEpochDay (timestamp.seconds / perDay)

/-- The timestamp with the given seconds and nanoseconds, unless there is no such instant. -/
def ofUnix? (seconds : Int) (nanos : Nat) : Option Timestamp :=
  let timestamp : Timestamp := ⟨seconds, nanos⟩
  let leap := 1000000000 ≤ nanos
  if 2000000000 ≤ nanos then none
  else if leap ∧ seconds % 60 ≠ 59 then none
  else if timestamp.day.year < minYear ∨ maxYear < timestamp.day.year then none
  else some timestamp

/-- A year: four digits, or a sign and at least four digits. -/
def yearText (year : Int) : String :=
  if year < 0 then "-" ++ Decimal.padded 4 year.natAbs
  else if 9999 < year then "+" ++ Decimal.padded 4 year.natAbs
  else Decimal.padded 4 year.natAbs

/-- The decimals of a second. -/
def fraction (nanos : Nat) : String :=
  if nanos = 0 then ""
  else if nanos % 1000000 = 0 then "." ++ Decimal.padded 3 (nanos / 1000000)
  else if nanos % 1000 = 0 then "." ++ Decimal.padded 6 (nanos / 1000)
  else "." ++ Decimal.padded 9 nanos

/-- The text of a timestamp. -/
def text (timestamp : Timestamp) : String :=
  let date := timestamp.day
  let second := (timestamp.seconds % perDay).toNat
  let leap := timestamp.nanos / 1000000000
  yearText date.year ++ "-" ++ Decimal.padded 2 date.month ++ "-" ++ Decimal.padded 2 date.day ++
    "T" ++ Decimal.padded 2 (second / 3600) ++ ":" ++ Decimal.padded 2 (second / 60 % 60) ++
    ":" ++ Decimal.padded 2 (second % 60 + leap) ++ fraction (timestamp.nanos % 1000000000) ++ "Z"

end Timestamp

end LiveCounter
