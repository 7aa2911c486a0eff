import BoundSql.Decimal.Digits
import BoundSql.Instant

/-!
# Instants as RFC 3339 text

The civil date of an instant in the proleptic Gregorian calendar, and its text
`2024-01-02T03:04:05.678Z`. The fraction has no, three, six or nine digits, the fewest
that are exact. A year outside 0 to 9999 carries a sign.
-/

namespace BoundSql

/-- A day of the proleptic Gregorian calendar. -/
structure CivilDate where
  /-- The astronomical year: zero is the year before the year one. -/
  year : Int
  /-- The month, from one. -/
  month : Nat
  /-- The day of the month, from one. -/
  day : Nat
deriving DecidableEq, Repr

namespace CivilDate

/-- Days from the first of March of the year zero to the first of January 1970. -/
def epochShift : Int := 719468

/-- Days in four hundred years. -/
def daysPerEra : Int := 146097

/-- The date a number of days after the first of January 1970. Years are counted from
the first of March, so that a leap day is the last day of its year. -/
def ofDays (days : Int) : CivilDate :=
  let shifted := days + epochShift
  let era := shifted.fdiv daysPerEra
  let dayOfEra := (shifted.fmod daysPerEra).toNat
  let yearOfEra := (dayOfEra - dayOfEra / 1460 + dayOfEra / 36524 - dayOfEra / 146096) / 365
  let dayOfYear := dayOfEra - (365 * yearOfEra + yearOfEra / 4 - yearOfEra / 100)
  let marchMonth := (5 * dayOfYear + 2) / 153
  let month := if marchMonth < 10 then marchMonth + 3 else marchMonth - 9
  { year := era * 400 + yearOfEra + (if month ≤ 2 then 1 else 0)
    month
    day := dayOfYear - (153 * marchMonth + 2) / 5 + 1 }

/-- The text of a year: four digits, with a sign outside 0 to 9999. -/
def yearText (year : Int) : String :=
  let digits := padded 4 year.natAbs
  if 0 ≤ year ∧ year ≤ 9999 then digits else (if year < 0 then "-" else "+") ++ digits

/-- The date as `year-month-day`. -/
def text (date : CivilDate) : String :=
  yearText date.year ++ "-" ++ padded 2 date.month ++ "-" ++ padded 2 date.day

end CivilDate

namespace Instant

/-- Seconds in a day. -/
def secondsPerDay : Int := 86400

/-- The date of an instant. -/
def date (t : Instant) : CivilDate := .ofDays (t.seconds.fdiv secondsPerDay)

/-- Seconds since the beginning of the day. -/
def secondOfDay (t : Instant) : Nat := (t.seconds.fmod secondsPerDay).toNat

/-- The fraction of a second with the fewest groups of three digits that are exact. -/
def fractionText (nanoseconds : Nat) : String :=
  if nanoseconds = 0 then ""
  else if nanoseconds % 1000000 = 0 then "." ++ padded 3 (nanoseconds / 1000000)
  else if nanoseconds % 1000 = 0 then "." ++ padded 6 (nanoseconds / 1000)
  else "." ++ padded 9 nanoseconds

/-- The instant as RFC 3339 text in universal time. -/
def rfc3339 (t : Instant) : String :=
  let second := t.secondOfDay
  t.date.text ++ "T" ++ padded 2 (second / 3600) ++ ":" ++ padded 2 (second / 60 % 60) ++ ":" ++
    padded 2 (second % 60) ++ fractionText t.nanoseconds.val ++ "Z"

end Instant

end BoundSql
