import SchemaAtlas.Decimal.Notation

/-! # Dates and moments

Dates of the proleptic Gregorian calendar from year 1 to year 9999, and moments on them to the
microsecond. A moment may carry its offset from universal time; two moments with offsets name the
same instant when their universal times agree.
-/

namespace SchemaAtlas.Document

open Decimal (paddedNat)

/-- A calendar date. -/
structure Date where
  year : Nat
  month : Nat
  day : Nat
  deriving DecidableEq, Repr

/-- A date with a time of day and, optionally, an offset from universal time in minutes. -/
structure Moment where
  date : Date
  hour : Nat
  minute : Nat
  second : Nat
  microsecond : Nat
  offset : Option Int
  deriving DecidableEq, Repr

/-- The component that keeps a date or a moment from existing. -/
inductive CalendarFault where
  | year (n : Nat)
  | month
  | day
  | hour
  | minute
  | second
  | microsecond
  | offset (minutes : Int)
  deriving DecidableEq, Repr

/-- A span of minutes as whole days and the seconds left over, the latter never negative. -/
def daysAndSeconds (minutes : Int) : Int × Int := (minutes / 1440, minutes % 1440 * 60)

/-- A span of minutes written as a duration constructor. -/
def durationLiteral (minutes : Int) : String :=
  let (days, seconds) := daysAndSeconds minutes
  let parts := (if days = 0 then [] else ["days=" ++ toString days]) ++
    (if seconds = 0 then [] else ["seconds=" ++ toString seconds])
  "datetime.timedelta(" ++ ", ".intercalate parts ++ ")"

/-- What is wrong with a date or a moment. -/
def CalendarFault.message : CalendarFault → String
  | .year n => "year " ++ toString n ++ " is out of range"
  | .month => "month must be in 1..12"
  | .day => "day is out of range for month"
  | .hour => "hour must be in 0..23"
  | .minute => "minute must be in 0..59"
  | .second => "second must be in 0..59"
  | .microsecond => "microsecond must be in 0..999999"
  | .offset minutes => "offset must be a timedelta strictly between -timedelta(hours=24) and " ++
      "timedelta(hours=24), not " ++ durationLiteral minutes ++ "."

/-- Every fourth year is a leap year, except centuries that are no multiple of 400. -/
def isLeapYear (year : Nat) : Bool := year % 4 == 0 && (year % 100 != 0 || year % 400 == 0)

/-- The number of days in a month. -/
def daysInMonth (year month : Nat) : Nat :=
  if month = 2 then (if isLeapYear year then 29 else 28)
  else if month = 4 || month = 6 || month = 9 || month = 11 then 30
  else 31

namespace Date

/-- The date with these components, or the first component that is out of range. -/
def of? (year month day : Nat) : Except CalendarFault Date :=
  if year < 1 || 9999 < year then .error (.year year)
  else if month < 1 || 12 < month then .error .month
  else if day < 1 || daysInMonth year month < day then .error .day
  else .ok ⟨year, month, day⟩

/-- Year, month and day divided by hyphens. -/
def iso (d : Date) : String :=
  paddedNat 4 d.year ++ "-" ++ paddedNat 2 d.month ++ "-" ++ paddedNat 2 d.day

/-- Year, month and day divided by commas. -/
def commas (d : Date) : String :=
  toString d.year ++ ", " ++ toString d.month ++ ", " ++ toString d.day

/-- The number of days from the first of January of year 1. -/
def dayNumber (d : Date) : Nat :=
  let past := d.year - 1
  past * 365 + past / 4 - past / 100 + past / 400 +
    (List.range (d.month - 1)).foldl (fun days month => days + daysInMonth d.year (month + 1)) 0 +
    (d.day - 1)

end Date

namespace Moment

/-- The moment with these components, or the first component that is out of range. -/
def of? (date : Except CalendarFault Date) (hour minute second microsecond : Nat)
    (offset : Option Int) : Except CalendarFault Moment := do
  if let some minutes := offset then
    if 1440 ≤ minutes.natAbs then throw (.offset minutes)
  let date ← date
  if 24 ≤ hour then throw .hour
  if 60 ≤ minute then throw .minute
  if 60 ≤ second then throw .second
  if 1000000 ≤ microsecond then throw .microsecond
  return ⟨date, hour, minute, second, microsecond, offset⟩

/-- An offset as a sign with hours and minutes. -/
def offsetText (minutes : Int) : String :=
  (if minutes < 0 then "-" else "+") ++ paddedNat 2 (minutes.natAbs / 60) ++ ":" ++
    paddedNat 2 (minutes.natAbs % 60)

/-- Hour, minute and second divided by colons. -/
def clock (m : Moment) : String :=
  paddedNat 2 m.hour ++ ":" ++ paddedNat 2 m.minute ++ ":" ++ paddedNat 2 m.second

/-- The offset of a moment, or nothing. -/
def zone (m : Moment) : String := m.offset.elim "" offsetText

/-- Date and time to the second with the offset, divided by a separator. -/
def isoSeconds (m : Moment) (separator : String) : String :=
  m.date.iso ++ separator ++ m.clock ++ m.zone

/-- Date and time with the offset; microseconds are written when there are any. -/
def iso (m : Moment) (separator : String) : String :=
  let fraction := if m.microsecond = 0 then "" else "." ++ paddedNat 6 m.microsecond
  m.date.iso ++ separator ++ m.clock ++ fraction ++ m.zone

/-- The microseconds from the start of year 1, in the moment's own time. -/
def localMicroseconds (m : Moment) : Int :=
  (((m.date.dayNumber * 24 + m.hour) * 60 + m.minute) * 60 + m.second) * 1000000 + m.microsecond

/-- The microseconds from the start of year 1, in universal time. -/
def instant (m : Moment) (offset : Int) : Int := m.localMicroseconds - offset * 60000000

end Moment

end SchemaAtlas.Document
