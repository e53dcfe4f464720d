import Mathlib.Algebra.Ring.Nat
import Mathlib.Data.Int.Init
import RowScript.Calendar.Instant

/-!
Dates and the numbers of their days. The years follow one another without a gap, and so do the
months of a year, so every day is of one year and one month: counting the days up to a date and
finding the date of a day undo each other. The number grows by one from a date to the next.
-/

namespace RowScript

namespace Date

def yearLength (year : Int) : Nat := (monthLengths (isLeap year)).sum

theorem isLeap_iff {year : Int} :
    isLeap year = true ↔ year % 4 = 0 ∧ (year % 100 ≠ 0 ∨ year % 400 = 0) :=
  decide_eq_true_iff

theorem yearLength_eq (year : Int) : yearLength year = if isLeap year then 366 else 365 := by
  rw [yearLength]
  cases isLeap year <;> rfl

theorem daysBeforeYear_succ (year : Int) :
    daysBeforeYear (year + 1) = daysBeforeYear year + yearLength year := by
  rw [yearLength_eq, daysBeforeYear, daysBeforeYear]
  simp only [isLeap_iff]
  split <;> omega

theorem daysBeforeYear_mono {year later : Int} (h : year ≤ later) :
    daysBeforeYear year ≤ daysBeforeYear later := by
  rw [daysBeforeYear, daysBeforeYear]
  omega

/-- A day of a year is of no other year. -/
theorem year_unique {year other : Int} {rest more : Nat} (hrest : rest < yearLength year)
    (hmore : more < yearLength other)
    (h : daysBeforeYear year + rest = daysBeforeYear other + more) : year = other := by
  have hbefore {year other : Int} {rest more : Nat} (hrest : rest < yearLength year)
      (h : daysBeforeYear year + rest = daysBeforeYear other + more) : ¬year < other := by
    intro hlt
    have hsucc := daysBeforeYear_succ year
    have hmono := daysBeforeYear_mono (Int.add_one_le_of_lt hlt)
    omega
  exact Int.le_antisymm (Int.not_lt.mp (hbefore hmore h.symm)) (Int.not_lt.mp (hbefore hrest h))

section Cycles

variable (cycles : Int) {centuries quads years : Nat} (hcenturies : centuries ≤ 3)
  (hquads : quads ≤ 24) (hyears : years ≤ 3)
include hcenturies hquads hyears

theorem daysBeforeYear_cycles :
    daysBeforeYear (400 * cycles + 100 * centuries + 4 * quads + years + 1) =
      146097 * cycles + 36524 * centuries + 1461 * quads + 365 * years := by
  rw [daysBeforeYear]
  omega

theorem isLeap_cycles :
    isLeap (400 * cycles + 100 * centuries + 4 * quads + years + 1) = true ↔
      years = 3 ∧ (quads < 24 ∨ centuries = 3) := by
  rw [isLeap_iff]
  omega

end Cycles

theorem yearAndRest_spec (days : Int) :
    daysBeforeYear (yearAndRest days).1 + (yearAndRest days).2 = days ∧
      (yearAndRest days).2 < yearLength (yearAndRest days).1 := by
  rw [yearAndRest]
  generalize hinCycle : (days % 146097).toNat = inCycle
  have hcycle : days = 146097 * (days / 146097) + inCycle := by omega
  have hshort : inCycle < 146097 := by omega
  generalize hcenturies : min (inCycle / 36524) 3 = centuries
  generalize hinCentury : inCycle - 36524 * centuries = inCentury
  have hcentury : inCycle = 36524 * centuries + inCentury ∧ centuries ≤ 3 ∧
      (inCentury < 36524 ∨ centuries = 3 ∧ inCentury = 36524) := by omega
  generalize hquads : inCentury / 1461 = quads
  generalize hinQuad : inCentury % 1461 = inQuad
  have hquad : inCentury = 1461 * quads + inQuad ∧ quads ≤ 24 ∧ inQuad < 1461 := by omega
  generalize hyears : min (inQuad / 365) 3 = years
  generalize hrest : inQuad - 365 * years = rest
  have hyear : inQuad = 365 * years + rest ∧ years ≤ 3 ∧
      (rest < 365 ∨ years = 3 ∧ rest = 365) := by omega
  dsimp only
  rw [daysBeforeYear_cycles _ hcentury.2.1 hquad.2.1 hyear.2.1, yearLength_eq]
  simp only [isLeap_cycles _ hcentury.2.1 hquad.2.1 hyear.2.1]
  constructor
  · omega
  · split <;> omega

theorem length_pos (leap : Bool) : ∀ length ∈ monthLengths leap, 0 < length := by
  cases leap <;> decide

section Months

variable {lengths : List Nat} {i length day before : Nat}

theorem monthAndDay_eq (month : Nat) (hmonth : lengths[i]? = some length) (hday : day < length) :
    monthAndDay month lengths ((lengths.take i).sum + day) = (month + i, day + 1) := by
  induction lengths generalizing month i with
  | nil => cases hmonth
  | cons first lengths ih =>
      cases i with
      | zero =>
          obtain rfl := Option.some.inj hmonth
          rw [List.take_zero, List.sum_nil, Nat.zero_add, monthAndDay, if_pos hday]
          rfl
      | succ i =>
          rw [List.take_succ_cons, List.sum_cons, Nat.add_assoc, monthAndDay,
            if_neg (Nat.not_lt.mpr (Nat.le_add_right _ _)), Nat.add_sub_cancel_left,
            ih (month + 1) hmonth, Nat.add_assoc, Nat.add_comm 1]

theorem exists_month (h : before < lengths.sum) :
    ∃ i length day, lengths[i]? = some length ∧ day < length ∧
      before = (lengths.take i).sum + day := by
  induction lengths generalizing before with
  | nil => cases h
  | cons first lengths ih =>
      by_cases hfirst : before < first
      · exact ⟨0, first, before, rfl, hfirst, by simp⟩
      · rw [List.sum_cons] at h
        have hlater : before - first < lengths.sum := by omega
        obtain ⟨i, length, day, hmonth, hday, hbefore⟩ := ih hlater
        refine ⟨i + 1, length, day, hmonth, hday, ?_⟩
        rw [List.take_succ_cons, List.sum_cons]
        omega

theorem sum_take_succ (hmonth : lengths[i]? = some length) :
    (lengths.take (i + 1)).sum = (lengths.take i).sum + length := by
  rw [List.take_add_one, hmonth, List.sum_append]
  simp

theorem sum_take_lt (hmonth : lengths[i]? = some length) (hday : day < length) :
    (lengths.take i).sum + day < lengths.sum := by
  have hsplit := congrArg List.sum (List.take_append_drop (i + 1) lengths)
  rw [List.sum_append, sum_take_succ hmonth] at hsplit
  omega

end Months

/-- A date with so many months of its year, and days of its month, in front of it. -/
theorem isValid_mk_iff {year : Int} {i day : Nat} :
    isValid ⟨year, i + 1, day + 1⟩ = true ↔
      ∃ length, (monthLengths (isLeap year))[i]? = some length ∧ day < length := by
  simp only [isValid]
  cases (monthLengths (isLeap year))[i]? with
  | none => simp
  | some length =>
      rw [Bool.and_eq_true, decide_eq_true_eq, decide_eq_true_eq]
      constructor
      · rintro ⟨-, hday⟩
        exact ⟨length, rfl, hday⟩
      · rintro ⟨_, ⟨⟩, hday⟩
        exact ⟨Nat.le_add_left 1 day, hday⟩

theorem isValid_iff {d : Date} :
    d.isValid = true ↔ ∃ i length day, d = ⟨d.year, i + 1, day + 1⟩ ∧
      (monthLengths (isLeap d.year))[i]? = some length ∧ day < length := by
  constructor
  · intro h
    obtain ⟨year, month, day⟩ := d
    cases month with
    | zero => cases h
    | succ i =>
        cases day with
        | zero =>
            simp only [isValid] at h
            split at h <;> simp at h
        | succ day =>
            obtain ⟨length, hmonth, hday⟩ := isValid_mk_iff.mp h
            exact ⟨i, length, day, rfl, hmonth, hday⟩
  · rintro ⟨i, length, day, hd, hmonth, hday⟩
    rw [hd]
    exact isValid_mk_iff.mpr ⟨length, hmonth, hday⟩

theorem month_day_bounds {d : Date} (h : d.isValid = true) : d.month ≤ 12 ∧ d.day ≤ 31 := by
  obtain ⟨i, length, day, hd, hmonth, hday⟩ := isValid_iff.mp h
  have hmonths : (monthLengths (isLeap d.year)).length = 12 := rfl
  have hlengths : ∀ leap, ∀ length ∈ monthLengths leap, length ≤ 31 := by decide
  have hi := (List.getElem?_eq_some_iff.mp hmonth).1
  have hlength := hlengths _ length (List.mem_of_getElem? hmonth)
  rw [hd]
  dsimp only
  omega

theorem daysBefore_eq (year : Int) (i day : Nat) :
    daysBefore ⟨year, i + 1, day + 1⟩ =
      ((monthLengths (isLeap year)).take i).sum + day := rfl

theorem daysBefore_lt {d : Date} (h : d.isValid = true) : d.daysBefore < yearLength d.year := by
  obtain ⟨i, length, day, hd, hmonth, hday⟩ := isValid_iff.mp h
  rw [hd, daysBefore_eq]
  exact sum_take_lt hmonth hday

theorem ofDays_spec (days : Int) : (ofDays days).isValid = true ∧ (ofDays days).toDays = days := by
  obtain ⟨hdays, hrest⟩ := yearAndRest_spec (days + epoch)
  obtain ⟨i, length, day, hmonth, hday, hbefore⟩ := exists_month hrest
  have hdate : ofDays days = ⟨(yearAndRest (days + epoch)).1, i + 1, day + 1⟩ := by
    rw [ofDays]
    dsimp only
    rw [hbefore, monthAndDay_eq 1 hmonth hday, Nat.add_comm 1 i]
  rw [hdate]
  refine ⟨isValid_iff.mpr ⟨i, length, day, rfl, hmonth, hday⟩, ?_⟩
  rw [toDays, daysBefore_eq, ← hbefore, hdays, Int.add_sub_cancel]

theorem ofDays_toDays {d : Date} (h : d.isValid = true) : ofDays d.toDays = d := by
  have hrest := daysBefore_lt h
  obtain ⟨i, length, day, hd, hmonth, hday⟩ := isValid_iff.mp h
  obtain ⟨hsum, hless⟩ := yearAndRest_spec (d.toDays + epoch)
  have htotal : daysBeforeYear (yearAndRest (d.toDays + epoch)).1 +
      (yearAndRest (d.toDays + epoch)).2 = daysBeforeYear d.year + d.daysBefore := by
    rw [hsum, toDays]
    omega
  have hyear := year_unique hless hrest htotal
  have hbefore : (yearAndRest (d.toDays + epoch)).2 = d.daysBefore := by
    rw [hyear] at htotal
    omega
  have hmonthAndDay : monthAndDay 1 (monthLengths (isLeap d.year)) d.daysBefore =
      (i + 1, day + 1) := by
    rw [hd, daysBefore_eq, monthAndDay_eq 1 hmonth hday, Nat.add_comm 1 i]
  rw [ofDays]
  dsimp only
  rw [hyear, hbefore, hmonthAndDay]
  exact hd.symm

/-- The date that follows: the next day of the month, the first day of the next month, or the
first day of the next year. -/
def next (d : Date) : Date :=
  if isValid ⟨d.year, d.month, d.day + 1⟩ then ⟨d.year, d.month, d.day + 1⟩
  else if isValid ⟨d.year, d.month + 1, 1⟩ then ⟨d.year, d.month + 1, 1⟩
  else ⟨d.year + 1, 1, 1⟩

theorem next_spec {d : Date} (h : d.isValid = true) :
    d.next.isValid = true ∧ d.next.toDays = d.toDays + 1 := by
  obtain ⟨i, length, day, hd, hmonth, hday⟩ := isValid_iff.mp h
  generalize d.year = year at hd hmonth
  subst hd
  have htoDays (year : Int) (i day : Nat) : toDays ⟨year, i + 1, day + 1⟩ =
      daysBeforeYear year + (((monthLengths (isLeap year)).take i).sum + day : Nat) - epoch := rfl
  rw [next]
  dsimp only
  split
  · rename_i hnext
    refine ⟨hnext, ?_⟩
    rw [htoDays, htoDays]
    omega
  · rename_i hlast
    have hlength : day + 1 = length := by
      have hmore : ¬day + 1 < length := fun hmore => hlast (isValid_mk_iff.mpr ⟨_, hmonth, hmore⟩)
      omega
    have hsum := sum_take_succ hmonth
    split
    · rename_i hnext
      refine ⟨hnext, ?_⟩
      rw [htoDays year (i + 1) 0, htoDays]
      omega
    · rename_i hnone
      have htake : (monthLengths (isLeap year)).take (i + 1) = monthLengths (isLeap year) := by
        refine List.take_of_length_le (Nat.not_lt.mp fun hmore => hnone ?_)
        refine isValid_mk_iff.mpr ⟨_, List.getElem?_eq_getElem hmore, ?_⟩
        exact length_pos _ _ (List.getElem_mem hmore)
      have hyear : ((monthLengths (isLeap year)).take (i + 1)).sum = yearLength year := by
        rw [htake, yearLength]
      refine ⟨isValid_mk_iff.mpr ⟨31, rfl, by omega⟩, ?_⟩
      rw [htoDays (year + 1) 0 0, htoDays, daysBeforeYear_succ, ← hyear, hsum, List.take_zero,
        List.sum_nil]
      omega

theorem next_ofDays (days : Int) : (ofDays days).next = ofDays (days + 1) := by
  obtain ⟨hvalid, hdays⟩ := ofDays_spec days
  obtain ⟨hnext, hsucc⟩ := next_spec hvalid
  rw [← ofDays_toDays hnext, hsucc, hdays]

/-- The date so many days after 1970-01-01, counted from one date to the next. -/
inductive DaysAfter : Int → Date → Prop where
  | start : DaysAfter 0 ⟨1970, 1, 1⟩
  | next {days : Int} {d : Date} (h : DaysAfter days d) : DaysAfter (days + 1) d.next
  | previous {days : Int} {d : Date} (hvalid : d.isValid = true)
      (h : DaysAfter (days + 1) d.next) : DaysAfter days d

theorem daysAfter_iff {days : Int} {d : Date} : DaysAfter days d ↔ d = ofDays days := by
  constructor
  · intro h
    induction h with
    | start => rfl
    | next _ ih => rw [ih, next_ofDays]
    | @previous days d hvalid _ ih =>
        have hsucc := (next_spec hvalid).2
        rw [ih, (ofDays_spec (days + 1)).2] at hsucc
        have hdays : d.toDays = days := by omega
        rw [← hdays, ofDays_toDays hvalid]
  · rintro rfl
    induction days using Int.induction_on with
    | zero => exact .start
    | succ days ih => exact next_ofDays days ▸ ih.next
    | pred days ih =>
        refine .previous (ofDays_spec _).1 ?_
        rwa [next_ofDays, Int.sub_add_cancel]

/-- The years up to the year of a day are those that have begun by then. -/
theorem le_year_iff {year days : Int} :
    year ≤ (ofDays days).year ↔ daysBeforeYear year ≤ days + epoch := by
  obtain ⟨hsum, hless⟩ := yearAndRest_spec (days + epoch)
  change year ≤ (yearAndRest (days + epoch)).1 ↔ _
  constructor
  · intro h
    have hmono := daysBeforeYear_mono h
    omega
  · intro h
    by_contra hlater
    have hsucc := daysBeforeYear_succ (yearAndRest (days + epoch)).1
    have hmono := daysBeforeYear_mono (Int.add_one_le_of_lt (Int.not_le.mp hlater))
    omega

end Date

end RowScript
