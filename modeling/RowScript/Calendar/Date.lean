/-!
Dates of the proleptic Gregorian calendar, with a year 0 before the year 1.
Days are counted from 1970-01-01. Four hundred years always have the same number
of days, so a day number is split into whole cycles of 400, 100, 4 and 1 years;
the last cycle of 100 years and the last year of four are the ones that may be
a day longer, which is why their number is cut at three.
-/

namespace RowScript

structure Date where
  year : Int
  month : Nat
  day : Nat
deriving DecidableEq

namespace Date

def isLeap (year : Int) : Bool :=
  year % 4 = 0 ∧ (year % 100 ≠ 0 ∨ year % 400 = 0)

def monthLengths (leap : Bool) : List Nat :=
  [31, if leap then 29 else 28, 31, 30, 31, 30, 31, 31, 30, 31, 30, 31]

/-- Days from the first day of the year 1 to the first day of the given year. -/
def daysBeforeYear (year : Int) : Int :=
  365 * (year - 1) + (year - 1) / 4 - (year - 1) / 100 + (year - 1) / 400

/-- Days from the first day of the year 1 to 1970-01-01. -/
def epoch : Int := daysBeforeYear 1970

/-- The year of a day counted from the first day of the year 1, and the number
of days of that year before it. -/
def yearAndRest (days : Int) : Int × Nat :=
  let inCycle := (days % 146097).toNat
  let centuries := min (inCycle / 36524) 3
  let inCentury := inCycle - 36524 * centuries
  let quads := inCentury / 1461
  let inQuad := inCentury % 1461
  let years := min (inQuad / 365) 3
  (400 * (days / 146097) + 100 * centuries + 4 * quads + years + 1, inQuad - 365 * years)

/-- The month and the day of the month, both counted from one, of the day that
has `before` days of the given months before it. `month` is the number of the
first of those months. -/
def monthAndDay (month : Nat) : List Nat → Nat → Nat × Nat
  | [], before => (month, before + 1)
  | length :: lengths, before =>
    if before < length then (month, before + 1)
    else monthAndDay (month + 1) lengths (before - length)

/-- The date of a day counted from 1970-01-01. -/
def ofDays (days : Int) : Date :=
  let (year, rest) := yearAndRest (days + epoch)
  let (month, day) := monthAndDay 1 (monthLengths (isLeap year)) rest
  ⟨year, month, day⟩

/-- Days of the year before the date. -/
def daysBefore (d : Date) : Nat :=
  ((monthLengths (isLeap d.year)).take (d.month - 1)).foldr (· + ·) 0 + (d.day - 1)

/-- The day counted from 1970-01-01. -/
def toDays (d : Date) : Int :=
  daysBeforeYear d.year + d.daysBefore - epoch

/-- Whether the calendar has the date. -/
def isValid (d : Date) : Bool :=
  match d.month with
  | 0 => false
  | month + 1 =>
    match (monthLengths (isLeap d.year))[month]? with
    | some length => 1 ≤ d.day && d.day ≤ length
    | none => false

end Date

end RowScript
