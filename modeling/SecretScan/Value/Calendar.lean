import SecretScan.Decimal.Binary

/-!
# Dates and times of day

A `Date` is a day of the calendar, a `Moment` a second of it or a part of one, with or without its
distance from universal time. Two moments with such a distance are compared as the instants that
they name (`Moment.instant`).
-/

namespace SecretScan

/-- A day of the calendar. -/
structure Date where
  year : Nat
  month : Nat
  day : Nat
  deriving DecidableEq, Repr, Inhabited

/-- A time of a day. -/
structure Moment where
  date : Date
  hour : Nat
  minute : Nat
  second : Nat
  microsecond : Nat
  /-- The distance from universal time in minutes, positive in the east. -/
  offset : Option Int
  deriving DecidableEq, Repr, Inhabited

/-- A number with at least `width` digits. -/
def paddedNumber (width n : Nat) : String :=
  let ds := Decimal.digitsOf n
  String.ofList (List.replicate (width - ds.length) '0' ++ ds)

namespace Date

/-- Has the year a leap day? -/
def isLeap (year : Nat) : Bool :=
  year % 4 == 0 && (year % 100 != 0 || year % 400 == 0)

/-- The number of days of a month. -/
def daysIn (year month : Nat) : Nat :=
  if month == 2 then (if isLeap year then 29 else 28)
  else if [4, 6, 9, 11].contains month then 30
  else 31

/-- Is there such a day? Years have one to four digits. -/
def isValid (d : Date) : Bool :=
  1 ≤ d.year && d.year ≤ 9999 && 1 ≤ d.month && d.month ≤ 12 && 1 ≤ d.day &&
    d.day ≤ daysIn d.year d.month

/-- The days of the years before a year. -/
def daysBefore (year : Nat) : Nat :=
  let y := year - 1
  365 * y + y / 4 - y / 100 + y / 400

/-- The number of a day; the first of January of the year one has the number one. -/
def ordinal (d : Date) : Nat :=
  daysBefore d.year + ((List.range' 1 (d.month - 1)).map (daysIn d.year)).foldr (· + ·) 0 + d.day

/-- The date as written: year, month and day. -/
def text (d : Date) : String :=
  paddedNumber 4 d.year ++ "-" ++ paddedNumber 2 d.month ++ "-" ++ paddedNumber 2 d.day

end Date

namespace Moment

/-- Is there such a time? A distance from universal time is less than a day. -/
def isValid (t : Moment) : Bool :=
  t.date.isValid && t.hour < 24 && t.minute < 60 && t.second < 60 && t.microsecond < 1000000 &&
    t.offset.all fun o => -1440 < o && o < 1440

/-- The microseconds since the beginning of the calendar, by the clock that the moment is read
from. -/
def clock (t : Moment) : Int :=
  let seconds := ((t.date.ordinal * 24 + t.hour) * 60 + t.minute) * 60 + t.second
  Int.ofNat (seconds * 1000000 + t.microsecond)

/-- The instant of a moment whose distance from universal time is known. -/
def instant (t : Moment) : Int :=
  t.clock - (t.offset.getD 0) * 60000000

/-- The distance from universal time as written. -/
def offsetText (minutes : Int) : String :=
  (if minutes < 0 then "-" else "+") ++ paddedNumber 2 (minutes.natAbs / 60) ++ ":" ++
    paddedNumber 2 (minutes.natAbs % 60)

/-- The moment as written, with a text between date and time. -/
def text (between : String) (t : Moment) : String :=
  t.date.text ++ between ++ paddedNumber 2 t.hour ++ ":" ++ paddedNumber 2 t.minute ++ ":" ++
    paddedNumber 2 t.second ++
    (if t.microsecond == 0 then "" else "." ++ paddedNumber 6 t.microsecond) ++
    (t.offset.map offsetText).getD ""

end Moment

end SecretScan
