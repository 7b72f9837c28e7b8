import EmbeddedPython.Text.Numeral
import EmbeddedPython.Value

/-!
# The constructor of dates

The interpreter makes a date out of seven numbers.  It looks at them in turn, from
the year on, and raises an exception at the first one that its calendar does not
have.
-/

namespace EmbeddedPython.Moment

/-- A year with a 29th of February. -/
def isLeap (year : Int) : Bool :=
  year % 4 == 0 && (year % 100 != 0 || year % 400 == 0)

/-- The days of each month, from January on, in a year that is not leap. -/
def monthLengths : List Int :=
  [31, 28, 31, 30, 31, 30, 31, 31, 30, 31, 30, 31]

/-- The last day of a month. -/
def lastDay (year month : Int) : Int :=
  if month == 2 && isLeap year then 29 else monthLengths.getD (month - 1).toNat 0

/-- A number from `low` to `high`.  The text tells of any other. -/
def checkRange (low high n : Int) (text : String) : Except Raised Unit :=
  if low ≤ n && n ≤ high then .ok () else .error ⟨"ValueError", text⟩

/-- The date and time of some numbers. -/
def make (year month day hour minute second microsecond : Int) : Except Raised Moment := do
  checkRange 1 9999 year ("year " ++ Numeral.signed year ++ " is out of range")
  checkRange 1 12 month "month must be in 1..12"
  checkRange 1 (lastDay year month) day "day is out of range for month"
  checkRange 0 23 hour "hour must be in 0..23"
  checkRange 0 59 minute "minute must be in 0..59"
  checkRange 0 59 second "second must be in 0..59"
  checkRange 0 999999 microsecond "microsecond must be in 0..999999"
  return .ofNumbers year month day hour minute second microsecond

end EmbeddedPython.Moment
