import Tailor.Text.Basic

/-! # Days and times

The calendar counts years from 1 to 9999 by the Gregorian rule, and days without leap seconds.
`Date.make` and `TimeOfDay.make` refuse what the calendar does not have.
-/

namespace Tailor

/-- A day of the calendar. -/
structure Date where
  year : Nat
  month : Nat
  day : Nat
deriving Repr, DecidableEq

/-- A time of day. -/
structure TimeOfDay where
  hour : Nat
  minute : Nat
  second : Nat
  microsecond : Nat
deriving Repr, DecidableEq

/-- Why numbers are no day, no time or no distance from universal time. -/
inductive CalendarFault where
  | year (value : Nat)
  | month
  | day
  | hour
  | minute
  | second
  /-- A distance from universal time of a day or more, in minutes. -/
  | offset (minutes : Int)
deriving Repr, DecidableEq

namespace Date

/-- A day as year, month and day. -/
def text (date : Date) : Text :=
  Text.padLeft '0' 4 (Text.ofNat date.year) ++ '-' :: Text.padLeft '0' 2 (Text.ofNat date.month) ++
    '-' :: Text.padLeft '0' 2 (Text.ofNat date.day)

/-- A year of the calendar with a leap day. -/
def isLeap (year : Nat) : Bool := (year % 4 == 0 && year % 100 != 0) || year % 400 == 0

def daysIn (year month : Nat) : Nat :=
  match month with
  | 2 => if isLeap year then 29 else 28
  | 4 | 6 | 9 | 11 => 30
  | _ => 31

/-- A day that the calendar has, in a year of at most four digits. -/
def make (year month day : Nat) : Except CalendarFault Date :=
  if year < 1 ∨ 9999 < year then .error (.year year)
  else if month < 1 ∨ 12 < month then .error .month
  else if day < 1 ∨ daysIn year month < day then .error .day
  else .ok ⟨year, month, day⟩

/-- The number of days before the day since the beginning of the year 1. -/
def ordinal (date : Date) : Nat :=
  let before := date.year - 1
  let months := (List.range (date.month - 1)).map fun index => daysIn date.year (index + 1)
  before * 365 + before / 4 - before / 100 + before / 400 + months.foldl (· + ·) 0 + (date.day - 1)

end Date

namespace TimeOfDay

/-- A time with its seconds, and its microseconds unless they are zero. -/
def text (time : TimeOfDay) : Text :=
  let two := fun n => Text.padLeft '0' 2 (Text.ofNat n)
  two time.hour ++ ':' :: two time.minute ++ ':' :: two time.second ++
    (if time.microsecond = 0 then []
     else '.' :: Text.padLeft '0' 6 (Text.ofNat time.microsecond))

def make (hour minute second microsecond : Nat) : Except CalendarFault TimeOfDay :=
  if 23 < hour then .error .hour
  else if 59 < minute then .error .minute
  else if 59 < second then .error .second
  else .ok ⟨hour, minute, second, microsecond⟩

def microseconds (time : TimeOfDay) : Nat :=
  ((time.hour * 60 + time.minute) * 60 + time.second) * 1000000 + time.microsecond

end TimeOfDay

/-- A distance from universal time in minutes; it is less than a day. -/
def zoneOffset (minutes : Int) : Except CalendarFault Int :=
  if minutes.natAbs < 1440 then .ok minutes else .error (.offset minutes)

/-- The parts of a distance in time as they are listed: days, then seconds, of which only the days
may be negative; parts of zero are left out. -/
def spanParts (minutes : Int) : Text :=
  let days := minutes.fdiv 1440
  let seconds := (minutes - days * 1440) * 60
  let part := fun (name : String) (value : Int) =>
    if value = 0 then [] else [name.toList ++ '=' :: Text.ofInt value]
  match part "days" days ++ part "seconds" seconds with
  | [] => ['0']
  | parts => Text.join [',', ' '] parts

def CalendarFault.message : CalendarFault → Text
  | .year value => "year ".toList ++ Text.ofNat value ++ " is out of range".toList
  | .month => "month must be in 1..12".toList
  | .day => "day is out of range for month".toList
  | .hour => "hour must be in 0..23".toList
  | .minute => "minute must be in 0..59".toList
  | .second => "second must be in 0..59".toList
  | .offset minutes =>
      "offset must be a timedelta strictly between -timedelta(hours=24) and ".toList ++
        "timedelta(hours=24), not datetime.timedelta(".toList ++ spanParts minutes ++ ").".toList

end Tailor
