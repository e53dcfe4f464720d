import RowScript.Proofs.Columns
import RowScript.Directive.BuiltIn
import RowScript.Proofs.TimestampText

/-!
The parts of a timestamp that a script can have written into a column. They are integers of few
digits, so nothing is lost on the way into the column, and all of them come from one date of
the calendar and one time of that day.
-/

namespace RowScript

/-- The days of the years that have instants. -/
theorem Date.year_bounds_iff {days : Int} :
    (-262143 ≤ (ofDays days).year ∧ (ofDays days).year ≤ 262142) ↔
      -96465292 ≤ days ∧ days ≤ 95026236 := by
  have hepoch : epoch = 719162 := rfl
  have hfirst : daysBeforeYear (-262143) = -95746130 := rfl
  have hbehind : daysBeforeYear 262143 = 95745399 := rfl
  have hlater : 262143 ≤ (ofDays days).year ↔ 95745399 ≤ days + epoch :=
    le_year_iff.trans (by rw [hbehind])
  rw [le_year_iff, hfirst]
  omega

theorem Instant.year_bounds (t : Instant) : -262143 ≤ t.date.year ∧ t.date.year ≤ 262142 := by
  obtain ⟨hlow, hhigh, -⟩ := isInstant_iff.mp t.inRange
  have hday : t.day = t.seconds / 86400 := rfl
  exact Date.year_bounds_iff.mpr (by omega)

namespace DateField

theorem bounds (t : Instant) (field : DateField) : -2 ^ 63 ≤ of t field ∧ of t field < 2 ^ 63 := by
  obtain ⟨hhour, hminute, hsecond⟩ := t.clock_bounds
  obtain ⟨hmonth, hday⟩ := Date.month_day_bounds t.date_isValid
  cases field with
  | dayOfMonth | monthOfYear | hourOfDay | minuteOfDay | secondOfMinute | dayOfWeek =>
      rw [of]
      omega
  | dayOfYear =>
      have hbefore := Date.daysBefore_lt t.date_isValid
      have hlength := Date.yearLength_eq t.date.year
      rw [of]
      split at hlength <;> omega
  | centuryOfEra =>
      obtain ⟨hfirst, hlast⟩ := t.year_bounds
      rw [of, yearOfEra]
      split <;> omega
  | milliseconds =>
      obtain ⟨hlow, hhigh, hnanos, -⟩ := Instant.isInstant_iff.mp t.inRange
      rw [of, Instant.millis]
      omega

/-- The integer for a part of a timestamp, as a column holds it. -/
def word (t : Instant) (field : DateField) : Int64 := Int64.ofInt (of t field)

theorem toInt_word (t : Instant) (field : DateField) : (word t field).toInt = of t field := by
  obtain ⟨hlow, hhigh⟩ := bounds t field
  exact Int64.toInt_ofInt_of_le hlow hhigh

theorem execute_getDate {source : String} {row : Row} {t : Instant}
    (h : row.value? source = some (.timestamp t)) (destination : String) (field : DateField)
    (c : Context) :
    (BuiltIn.getDate source destination field).execute c [row] =
      (c, .ok [row.set destination (.int (word t field))]) := by
  simp only [BuiltIn.execute, List.map_cons, List.map_nil, Row.extractField, h, word]

/-- The directive for this part of timestamps writes the integer for a timestamp, into whatever
column it is told to. -/
def Writes (field : DateField) (t : Instant) (n : Int64) : Prop :=
  ∀ (source destination : String) (row : Row) (c : Context),
    row.value? source = some (.timestamp t) →
      (BuiltIn.getDate source destination field).execute c [row] =
        (c, .ok [row.set destination (.int n)])

/-- A row with the timestamp alone shows which integer is written. -/
theorem writes_iff {field : DateField} {t : Instant} {n : Int64} :
    field.Writes t n ↔ n = word t field := by
  constructor
  · intro h
    have hheld : (Row.empty.set "t" (.timestamp t)).value? "t" = some (.timestamp t) := by
      rw [Row.value?_set, if_pos rfl]
    have hsame := (h "t" "t" _ .empty hheld).symm.trans (execute_getDate hheld "t" field .empty)
    have hrows := Except.ok.inj (Prod.mk.inj hsame).2
    have hvalue := congrArg (Row.value? · "t") (List.cons.inj hrows).1
    rw [Row.value?_set, if_pos rfl, Row.value?_set, if_pos rfl] at hvalue
    exact Value.int.inj (Option.some.inj hvalue)
  · rintro rfl source destination row c hsource
    exact execute_getDate hsource destination field c

end DateField

/-- The parts of a timestamp on a date of the calendar. -/
structure Instant.Shows (t : Instant) (date : Date) (part : DateField → Int) : Prop where
  clock : 60 * part .minuteOfDay + part .secondOfMinute = t.seconds % 86400
  second : 0 ≤ part .secondOfMinute ∧ part .secondOfMinute ≤ 59
  leapSecond : t.isLeapSecond = true → part .secondOfMinute = 59
  hour : part .hourOfDay = part .minuteOfDay / 60
  weekday : part .dayOfWeek = (t.seconds / 86400 + 3) % 7 + 1
  month : part .monthOfYear = date.month
  day : part .dayOfMonth = date.day
  dayOfYear : part .dayOfYear = part .dayOfMonth +
    ((Date.monthLengths (Date.isLeap date.year)).take (date.month - 1)).sum
  valid : date.isValid = true
  century : part .centuryOfEra = (if 1 ≤ date.year then date.year else 1 - date.year) / 100

theorem Instant.shows (t : Instant) : t.Shows t.date (DateField.of t) := by
  obtain ⟨i, length, day, hdate, -⟩ := Date.isValid_iff.mp t.date_isValid
  constructor
  case clock =>
    simp only [DateField.of, hour, minute, second, secondOfDay]
    omega
  case second =>
    have hsecond := t.clock_bounds.2.2
    rw [DateField.of]
    omega
  case leapSecond =>
    intro h
    rw [DateField.of, t.second_of_leap (of_decide_eq_true h)]
    rfl
  case hour =>
    have hminute := t.clock_bounds.2.1
    simp only [DateField.of]
    omega
  case weekday => rfl
  case month => rfl
  case day => rfl
  case dayOfYear =>
    rw [DateField.of, DateField.of, hdate, Date.daysBefore_eq, Nat.add_sub_cancel]
    dsimp only
    omega
  case valid => exact t.date_isValid
  case century => rfl

/-- The parts that the directive writes for a timestamp are those of one date, which is as many
days after 1970-01-01 as the seconds of the timestamp make up, and of a time of that day. -/
theorem Instant.parts_of_one_date (t : Instant) :
    ∃ (date : Date) (part : DateField → Int64),
      (∀ field n, field.Writes t n ↔ n = part field) ∧
      (∀ other, Date.DaysAfter (t.seconds / 86400) other ↔ other = date) ∧
      (∀ other, Date.DaysAfter (t.seconds / 86400 + 1) other ↔ other = date.next) ∧
      t.Shows date fun field => (part field).toInt := by
  refine ⟨t.date, DateField.word t, fun field n => DateField.writes_iff, ?date, ?next, ?shows⟩
  case date => exact fun other => Date.daysAfter_iff
  case next =>
    intro other
    rw [Date.daysAfter_iff, ← Date.next_ofDays]
    rfl
  case shows =>
    rw [funext (DateField.toInt_word t)]
    exact t.shows

end RowScript
