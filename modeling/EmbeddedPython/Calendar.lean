import EmbeddedPython.Text.Numeral

/-!
# Dates and times

A `DateTime` is a day of the proleptic Gregorian calendar and a time of
that day, without a time zone.  Its year, day and time are admissible by
construction.

A leap second is a time whose nanosecond part is a whole second or more.
`DateTime.of?` makes one out of the last second of a minute only.
-/

namespace EmbeddedPython

namespace Calendar

/-- The years of the calendar. -/
def firstYear : Int := -262143

@[inherit_doc firstYear]
def lastYear : Int := 262142

/-- A year with a 29th of February. -/
def isLeap (year : Int) : Bool :=
  year % 4 == 0 && (year % 100 != 0 || year % 400 == 0)

/-- The days of a month, zero for a month that does not exist. -/
def daysIn (year : Int) (month : Nat) : Nat :=
  match month with
  | 1 | 3 | 5 | 7 | 8 | 10 | 12 => 31
  | 4 | 6 | 9 | 11 => 30
  | 2 => if isLeap year then 29 else 28
  | _ => 0

/-- A day that exists. -/
def isDay (year : Int) (month day : Nat) : Bool :=
  firstYear ≤ year && year ≤ lastYear && 1 ≤ day && day ≤ daysIn year month

/-- A time of day, leap seconds included. -/
def isTime (hour minute second nanosecond : Nat) : Bool :=
  hour < 24 && minute < 60 && second < 60 && nanosecond < 2000000000

/-- Leap seconds come at the end of a minute. -/
def leapsAtEnd (second nanosecond : Nat) : Bool :=
  nanosecond < 1000000000 || second == 59

end Calendar

/-- A day and a time of that day. -/
structure DateTime where
  year : Int
  month : Nat
  day : Nat
  hour : Nat
  minute : Nat
  second : Nat
  nanosecond : Nat
  isDay : Calendar.isDay year month day = true
  isTime : Calendar.isTime hour minute second nanosecond = true
deriving Repr, DecidableEq

namespace DateTime

/-- The date and time of some fields, if there is one. -/
def of? (year : Int) (month day hour minute second nanosecond : Nat) :
    Option DateTime :=
  if hd : Calendar.isDay year month day = true then
    if ht : Calendar.isTime hour minute second nanosecond = true then
      if Calendar.leapsAtEnd second nanosecond then
        some ⟨year, month, day, hour, minute, second, nanosecond, hd, ht⟩
      else none
    else none
  else none

/-! ## Text -/

/-- The text of a year: four digits, and a sign outside of the years that
four digits can write. -/
def yearText (year : Int) : String :=
  if 0 ≤ year && year ≤ 9999 then Numeral.textPadded 4 year.natAbs
  else (if year < 0 then "-" else "+") ++ Numeral.textPadded 4 year.natAbs

/-- The text of the day. -/
def dayText (t : DateTime) : String :=
  yearText t.year ++ "-" ++ Numeral.textPadded 2 t.month ++ "-"
    ++ Numeral.textPadded 2 t.day

/-- The text of a part of a second: no digits, or as many as milliseconds,
microseconds or nanoseconds need. -/
def fractionText (nanosecond : Nat) : String :=
  if nanosecond = 0 then ""
  else if nanosecond % 1000000 = 0 then
    "." ++ Numeral.textPadded 3 (nanosecond / 1000000)
  else if nanosecond % 1000 = 0 then
    "." ++ Numeral.textPadded 6 (nanosecond / 1000)
  else "." ++ Numeral.textPadded 9 nanosecond

/-- The text of the time of day.  A leap second is second 60. -/
def timeText (t : DateTime) : String :=
  let leap := t.nanosecond / 1000000000
  Numeral.textPadded 2 t.hour ++ ":" ++ Numeral.textPadded 2 t.minute ++ ":"
    ++ Numeral.textPadded 2 (t.second + leap)
    ++ fractionText (t.nanosecond % 1000000000)

/-- Day and time with a blank between them. -/
def display (t : DateTime) : String :=
  t.dayText ++ " " ++ t.timeText

/-- Day and time with a `T` between them. -/
def quoted (t : DateTime) : String :=
  t.dayText ++ "T" ++ t.timeText

end DateTime

end EmbeddedPython
