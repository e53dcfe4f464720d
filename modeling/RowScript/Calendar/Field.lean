import RowScript.Calendar.Instant
import RowScript.Text.Basic

/-!
The parts of an instant that a script can ask for, by a long or a short keyword
in any case of letters.
-/

namespace RowScript

inductive DateField where
  | dayOfMonth
  | dayOfWeek
  | dayOfYear
  | hourOfDay
  | minuteOfDay
  | secondOfMinute
  | centuryOfEra
  | monthOfYear
  | milliseconds
deriving DecidableEq

namespace DateField

/-- The keywords of every field, the long one first. -/
def keywords : List (DateField × String × String) := [
  (dayOfMonth, "day-of-month", "dom"),
  (dayOfWeek, "day-of-week", "dow"),
  (dayOfYear, "day-of-year", "doy"),
  (hourOfDay, "hour-of-day", "hod"),
  (minuteOfDay, "minute-of-day", "mod"),
  (secondOfMinute, "second-of-minute", "som"),
  (centuryOfEra, "century-of-era", "coe"),
  (monthOfYear, "month-of-year", "moy"),
  (milliseconds, "milliseconds", "ms")]

def ofKeyword? (keyword : String) : Option DateField :=
  let lowered := String.ofList (Text.lower keyword.toList)
  (keywords.find? fun (_, long, short) => lowered = long || lowered = short).map (·.1)

/-- The year of its era: years before the year 1 are counted backwards. -/
def yearOfEra (year : Int) : Int :=
  if 1 ≤ year then year else 1 - year

/-- The value of a field. Weeks start with Monday, which is 1. -/
def of (t : Instant) : DateField → Int
  | dayOfMonth => t.date.day
  | dayOfWeek => (t.day + 3) % 7 + 1
  | dayOfYear => t.date.daysBefore + 1
  | hourOfDay => t.hour
  | minuteOfDay => t.hour * 60 + t.minute
  | secondOfMinute => t.second
  | centuryOfEra => yearOfEra t.date.year / 100
  | monthOfYear => t.date.month
  | milliseconds => t.millis

end DateField

end RowScript
