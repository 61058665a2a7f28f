import TableQuery.Decimal.Basic

/-!
# Dates, wall clocks and instants

Days and moments, with their written forms.
-/

/-!
## Dates

Days of the proleptic Gregorian calendar, counted from 1 January 1970, with the conversions to and
from year, month and day, and the written form.
-/

namespace TableQuery

/-- A day, as its distance from 1 January 1970. -/
structure Date where
  /-- Days since 1 January 1970, negative before it. -/
  days : Int
  deriving DecidableEq, Repr, Inhabited

/-- Year, month and day of a date. -/
structure Date.Fields where
  /-- The year; year 0 precedes year 1. -/
  year : Int
  /-- The month, from 1 to 12. -/
  month : Nat
  /-- The day of the month, from 1. -/
  day : Nat
  deriving DecidableEq, Repr

namespace Date

/-- The year has a 29 February. -/
def isLeap (year : Int) : Bool :=
  year % 4 == 0 && (year % 100 != 0 || year % 400 == 0)

/-- Number of days of a month. -/
def monthLength (year : Int) (month : Nat) : Nat :=
  match month with
  | 2 => if isLeap year then 29 else 28
  | 4 | 6 | 9 | 11 => 30
  | _ => 31

/-- The date of a year, month and day. Years are counted from March, so that a leap day is the last
day of its year, and grouped into cycles of 400 years with 146097 days. -/
def ofFields (f : Fields) : Date :=
  let month : Int := f.month
  let year := if month ≤ 2 then f.year - 1 else f.year
  let cycle := year.fdiv 400
  let yearOfCycle := year - cycle * 400
  let monthOfYear := if 2 < month then month - 3 else month + 9
  let dayOfYear := (153 * monthOfYear + 2) / 5 + f.day - 1
  let dayOfCycle := yearOfCycle * 365 + yearOfCycle / 4 - yearOfCycle / 100 + dayOfYear
  ⟨cycle * 146097 + dayOfCycle - 719468⟩

/-- Year, month and day of a date. -/
def fields (d : Date) : Fields :=
  let z := d.days + 719468
  let cycle := z.fdiv 146097
  let dayOfCycle := z - cycle * 146097
  let yearOfCycle :=
    (dayOfCycle - dayOfCycle / 1460 + dayOfCycle / 36524 - dayOfCycle / 146096) / 365
  let dayOfYear := dayOfCycle - (365 * yearOfCycle + yearOfCycle / 4 - yearOfCycle / 100)
  let monthOfYear := (5 * dayOfYear + 2) / 153
  let day := dayOfYear - (153 * monthOfYear + 2) / 5 + 1
  let month := if monthOfYear < 10 then monthOfYear + 3 else monthOfYear - 9
  let year := yearOfCycle + cycle * 400 + (if month ≤ 2 then 1 else 0)
  ⟨year, month.toNat, day.toNat⟩

/-- Day of the week, 0 for Sunday. 1 January 1970 was a Thursday. -/
def weekday (d : Date) : Nat :=
  ((d.days + 4) % 7).toNat

/-- A year of four digits; a year outside 0 to 9999 has a sign as well. -/
def yearChars (year : Int) : List Char :=
  if 0 ≤ year && year ≤ 9999 then Decimal.padded 4 year.toNat
  else (if year < 0 then '-' else '+') :: Decimal.padded 4 year.natAbs

/-- The characters of `year-month-day`. -/
def chars (d : Date) : List Char :=
  let f := d.fields
  yearChars f.year ++ '-' :: Decimal.padded 2 f.month ++ '-' :: Decimal.padded 2 f.day

/-- The date as `year-month-day`. -/
def text (d : Date) : String :=
  String.ofList d.chars

end Date

/-!
## Wall clocks and instants

A wall clock shows a date and a time of day without saying where. An instant is the wall clock that
UTC shows at that moment. Both have nanoseconds.
-/

/-- A date and a time of day, as the seconds that a clock without leap seconds counts. -/
structure WallClock where
  /-- Seconds since the clock showed 1970-01-01 00:00:00. -/
  seconds : Int
  /-- Nanoseconds of the second. -/
  nanos : Nat
  deriving DecidableEq, Repr, Inhabited

/-- A moment, given by what a UTC clock shows. -/
structure Instant where
  /-- The UTC wall clock at the moment. -/
  utc : WallClock
  deriving DecidableEq, Repr, Inhabited

namespace WallClock

/-- Seconds of a day. -/
def daySeconds : Int := 86400

/-- The date that the clock shows. -/
def date (w : WallClock) : Date :=
  ⟨w.seconds.fdiv daySeconds⟩

/-- The second of the day that the clock shows. -/
def secondOfDay (w : WallClock) : Nat :=
  (w.seconds.fmod daySeconds).toNat

/-- Midnight at the beginning of a date. -/
def midnight (d : Date) : WallClock :=
  ⟨d.days * daySeconds, 0⟩

/-- The clock set forward by some seconds. -/
def advance (w : WallClock) (seconds : Int) : WallClock :=
  ⟨w.seconds + seconds, w.nanos⟩

/-- The fraction of a second: nothing, or a point with the fewest of 3, 6 or 9 digits. -/
def fractionChars (nanos : Nat) : List Char :=
  if nanos = 0 then []
  else if nanos % 1000000 = 0 then '.' :: Decimal.padded 3 (nanos / 1000000)
  else if nanos % 1000 = 0 then '.' :: Decimal.padded 6 (nanos / 1000)
  else '.' :: Decimal.padded 9 nanos

/-- The time of day as `hours:minutes:seconds`. -/
def timeChars (secondOfDay : Nat) : List Char :=
  Decimal.padded 2 (secondOfDay / 3600) ++ ':' :: Decimal.padded 2 (secondOfDay / 60 % 60) ++
    ':' :: Decimal.padded 2 (secondOfDay % 60)

/-- Date, separator, time and fraction. -/
def chars (separator : Char) (w : WallClock) : List Char :=
  w.date.chars ++ separator :: timeChars w.secondOfDay ++ fractionChars w.nanos

/-- The clock with a blank between date and time, fraction included. -/
def text (w : WallClock) : String :=
  String.ofList (w.chars ' ')

/-- The clock with a `T` between date and time, fraction included. -/
def isoText (w : WallClock) : String :=
  String.ofList (w.chars 'T')

/-- Date and time of day to the second, as temporal columns show them. -/
def secondText (w : WallClock) : String :=
  String.ofList (w.date.chars ++ ' ' :: timeChars w.secondOfDay)

/-- Read as a UTC clock. -/
def assumeUtc (w : WallClock) : Instant := ⟨w⟩

end WallClock

namespace Instant

/-- The instant as an ISO text with the offset `+00:00`. -/
def offsetText (i : Instant) : String :=
  i.utc.isoText ++ "+00:00"

/-- The instant as an ISO text that ends in `Z`. -/
def zuluText (i : Instant) : String :=
  i.utc.isoText ++ "Z"

end Instant

end TableQuery
