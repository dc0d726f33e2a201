import HeadEnd.Time.Calendar
import Mathlib.Tactic.IntervalCases

/-! # Days and dates

Every numbered day has a date of the calendar, and the date has the number of the day. The other way
round, every date of the calendar is that of the day with its number.
-/

namespace HeadEnd.Calendar

/-! ## Days of a cycle -/

/-- A day of a cycle of 400 years: the century, the span of four years, the year of the span and the
day of the year that it lies in, all counted from 0. -/
structure IsDayOf (century span year dayOfYear day : Nat) : Prop where
  eq : day = 36524 * century + 1461 * span + 365 * year + dayOfYear
  century_le : century ≤ 3
  span_le : span ≤ 24
  year_le : year ≤ 3
  day_le : dayOfYear ≤ 365
  leap : dayOfYear = 365 → year = 3 ∧ (span = 24 → century = 3)

theorem exists_isDayOf {day : Nat} (h : day < 146097) :
    ∃ century span year dayOfYear, IsDayOf century span year dayOfYear day := by
  -- Each of the longer units has one day more at the end of the unit above it.
  obtain ⟨century, rest, rfl, hcentury, hrest, hlast⟩ : ∃ century rest,
      day = 36524 * century + rest ∧ century ≤ 3 ∧ rest ≤ 36524 ∧
        (rest = 36524 → century = 3) := by
    by_cases hday : day = 146096
    · exact ⟨3, 36524, by omega, by omega, by omega, by omega⟩
    · exact ⟨day / 36524, day % 36524, by omega, by omega, by omega, by omega⟩
  obtain ⟨span, rest, rfl, hspan, hrest', hlast'⟩ : ∃ span rest',
      rest = 1461 * span + rest' ∧ span ≤ 24 ∧ rest' ≤ 1460 ∧
        (span = 24 → rest' = 1460 → rest = 36524) :=
    ⟨rest / 1461, rest % 1461, by omega, by omega, by omega, by omega⟩
  obtain ⟨year, dayOfYear, rfl, hyear, hday, hleap⟩ : ∃ year dayOfYear,
      rest = 365 * year + dayOfYear ∧ year ≤ 3 ∧ dayOfYear ≤ 365 ∧
        (dayOfYear = 365 → year = 3) := by
    by_cases hday : rest = 1460
    · exact ⟨3, 365, by omega, by omega, by omega, by omega⟩
    · exact ⟨rest / 365, rest % 365, by omega, by omega, by omega, by omega⟩
  exact ⟨century, span, year, dayOfYear, by omega, hcentury, hspan, hyear, hday,
    fun h => ⟨hleap h, fun _ => by omega⟩⟩

namespace IsDayOf

variable {century span year dayOfYear day : Nat}

/-- The year of the cycle is told from the day by one formula. -/
theorem year_eq (h : IsDayOf century span year dayOfYear day) :
    (day - day / 1460 + day / 36524 - day / 146096) / 365 = 100 * century + 4 * span + year := by
  obtain ⟨heq, hcentury, hspan, hyear, hday, hleap⟩ := h
  have hcenturies : day / 36524 = century + day / 146096 := by
    by_cases hlast : 1461 * span + 365 * year + dayOfYear = 36524
    · have hend : span = 24 ∧ dayOfYear = 365 := by omega
      have hfourth : century = 3 := (hleap hend.2).2 hend.1
      omega
    · have hbefore : 1461 * span + 365 * year + dayOfYear < 36524 := by omega
      have hnone : day / 146096 = 0 := by omega
      omega
  have hspans : day / 1460 =
      25 * century + span + (24 * century + span + 365 * year + dayOfYear) / 1460 := by
    omega
  omega

theorem day_eq (h : IsDayOf century span year dayOfYear day) {yearOfCycle : Nat}
    (hyear : yearOfCycle = 100 * century + 4 * span + year) :
    day = 365 * yearOfCycle + yearOfCycle / 4 - yearOfCycle / 100 + dayOfYear := by
  obtain ⟨heq, _, _, _, _, _⟩ := h
  have hspans : yearOfCycle / 4 = 25 * century + span := by omega
  have hcenturies : yearOfCycle / 100 = century := by omega
  omega

/-- The last day of a year that ends with a leap day. -/
theorem isLeapYear (h : IsDayOf century span year dayOfYear day) (hday : dayOfYear = 365)
    {yearOfCycle : Nat} (hyear : yearOfCycle = 100 * century + 4 * span + year) (cycle : Int) :
    isLeapYear (400 * cycle + yearOfCycle + 1) = true := by
  obtain ⟨_, _, _, _, _, hleap⟩ := h
  obtain ⟨hlast, hcentury⟩ := hleap hday
  have hfour : (400 * cycle + yearOfCycle + 1) % 4 = 0 := by omega
  have hhundred : (400 * cycle + yearOfCycle + 1) % 100 ≠ 0 ∨
      (400 * cycle + yearOfCycle + 1) % 400 = 0 := by
    by_cases hspan : span = 24
    · have hfourth := hcentury hspan
      exact .inr (by omega)
    · exact .inl (by omega)
  simpa [Calendar.isLeapYear, hfour] using hhundred

end IsDayOf

/-! ## Dates -/

/-- The date of a day of a cycle, whose year begins in March. -/
def dateOf (cycle : Int) (yearOfCycle dayOfYear : Nat) : CivilDate :=
  let month := (5 * dayOfYear + 2) / 153
  { year := 400 * cycle + yearOfCycle + (if month < 10 then 0 else 1)
    month := if month < 10 then month + 3 else month - 9
    day := dayOfYear - daysBeforeMonth month + 1 }

theorem exists_ofDays_eq (days : Int) : ∃ cycle century span year dayOfYear day,
    IsDayOf century span year dayOfYear day ∧ days + epochOffset = 146097 * cycle + day ∧
      CivilDate.ofDays days = dateOf cycle (100 * century + 4 * span + year) dayOfYear := by
  have hlt : ((days + epochOffset) % 146097).toNat < 146097 := by omega
  obtain ⟨century, span, year, dayOfYear, hday⟩ := exists_isDayOf hlt
  refine ⟨(days + epochOffset) / 146097, century, span, year, dayOfYear, _, hday, by omega, ?_⟩
  have hrest := hday.day_eq rfl
  have hdayOfYear : ((days + epochOffset) % 146097).toNat -
      (365 * (100 * century + 4 * span + year) + (100 * century + 4 * span + year) / 4 -
        (100 * century + 4 * span + year) / 100) = dayOfYear := by
    omega
  simp only [CivilDate.ofDays, hday.year_eq, hdayOfYear, dateOf]

/-- Days of a year fall into months that begin where the linear formula says. -/
theorem daysBeforeMonth_le (dayOfYear : Nat) :
    daysBeforeMonth ((5 * dayOfYear + 2) / 153) ≤ dayOfYear := by
  unfold daysBeforeMonth
  omega

/-- The number of a date is counted from the first of March of its year. -/
theorem toDays_dateOf {cycle : Int} {yearOfCycle dayOfYear : Nat} (hyear : yearOfCycle ≤ 399)
    (hday : dayOfYear ≤ 365) :
    (dateOf cycle yearOfCycle dayOfYear).toDays =
      146097 * cycle + (365 * yearOfCycle + yearOfCycle / 4 - yearOfCycle / 100 : Nat) +
        dayOfYear - epochOffset := by
  have hbefore := daysBeforeMonth_le dayOfYear
  have hmonth : (5 * dayOfYear + 2) / 153 ≤ 11 := by omega
  unfold dateOf CivilDate.toDays
  generalize (5 * dayOfYear + 2) / 153 = month at *
  by_cases hspring : month < 10
  · have hback : (month + 3 + 9) % 12 = month := by omega
    have hlate : ¬ month + 3 ≤ 2 := by omega
    simp only [hspring, hlate, hback, if_true, if_false]
    omega
  · have hback : (month - 9 + 9) % 12 = month := by omega
    have hearly : month - 9 ≤ 2 := by omega
    simp only [hspring, hearly, hback, if_true, if_false]
    omega

/-- The date of a day has the number of the day. -/
theorem toDays_ofDays (days : Int) : (CivilDate.ofDays days).toDays = days := by
  obtain ⟨cycle, century, span, year, dayOfYear, day, hday, hdays, hdate⟩ := exists_ofDays_eq days
  have hrest := hday.day_eq rfl
  obtain ⟨_, hcentury, hspan, hyear, hdayOfYear, _⟩ := hday
  rw [hdate, toDays_dateOf (by omega) hdayOfYear]
  omega

/-- A month has as many days as the linear formula leaves for it; the last one has a leap day at
most. -/
theorem day_le_of_month {dayOfYear month : Nat} (hday : dayOfYear ≤ 365)
    (hmonth : month = (5 * dayOfYear + 2) / 153) :
    month ≤ 11 ∧ dayOfYear - daysBeforeMonth month + 1 ≤
      if month = 11 then (if dayOfYear = 365 then 29 else 28)
      else if month = 1 ∨ month = 3 ∨ month = 6 ∨ month = 8 then 30 else 31 := by
  unfold daysBeforeMonth
  split
  · split <;> omega
  · split <;> omega

/-- The date of a day is a date of the calendar. -/
theorem valid_ofDays (days : Int) : (CivilDate.ofDays days).Valid := by
  obtain ⟨cycle, century, span, year, dayOfYear, day, hday, hdays, hdate⟩ := exists_ofDays_eq days
  have hleap := fun h => hday.isLeapYear h rfl cycle
  obtain ⟨hmonth, hlast⟩ := day_le_of_month hday.day_le rfl
  rw [hdate]
  unfold dateOf CivilDate.Valid daysInMonth
  generalize (5 * dayOfYear + 2) / 153 = month at *
  by_cases hspring : month < 10
  · simp only [hspring, if_true]
    refine ⟨by omega, by omega, by omega, Nat.le_trans hlast ?_⟩
    have hnotFebruary : month ≠ 11 ∧ month + 3 ≠ 2 := by omega
    simp only [hnotFebruary.1, hnotFebruary.2, if_false]
    split <;> split <;> omega
  · simp only [hspring, if_false]
    refine ⟨by omega, by omega, by omega, Nat.le_trans hlast ?_⟩
    by_cases hFebruary : month = 11
    · simp only [hFebruary, if_true]
      split
      · rename_i hday
        exact Nat.le_of_eq (if_pos (hleap hday)).symm
      · split <;> omega
    · have hJanuary : month = 10 := by omega
      simp [hJanuary]

/-! ## Dates of the calendar -/

/-- The day of the year tells the month, which is counted from March as 0; the last month of a year
has 28 or 29 days. -/
theorem month_of_day {month day february : Nat} (hmonth : month ≤ 11) (hday : 1 ≤ day)
    (hfebruary : 28 ≤ february ∧ february ≤ 29)
    (hle : day ≤ if month = 11 then february
      else if month = 1 ∨ month = 3 ∨ month = 6 ∨ month = 8 then 30 else 31) :
    (5 * (daysBeforeMonth month + day - 1) + 2) / 153 = month ∧
      daysBeforeMonth month + day - 1 < 337 + february := by
  unfold daysBeforeMonth
  interval_cases month <;> simp at hle <;> omega

/-- The year that begins in March, and its month. -/
theorem exists_march {d : CivilDate} (h : 1 ≤ d.month ∧ d.month ≤ 12) :
    ∃ (year : Int) (month : Nat), month ≤ 11 ∧ d.year = year + (if month < 10 then 0 else 1) ∧
      d.month = if month < 10 then month + 3 else month - 9 := by
  by_cases hearly : d.month ≤ 2
  · have hlate : ¬ d.month + 9 < 10 := by omega
    exact ⟨d.year - 1, d.month + 9, by omega, by simp [hlate], by simp [hlate]⟩
  · have hlate : d.month - 3 < 10 := by omega
    have hback : d.month - 3 + 3 = d.month := by omega
    exact ⟨d.year, d.month - 3, by omega, by simp [hlate], by simp [hlate, hback]⟩

theorem daysInMonth_march {year : Int} {month : Nat} (h : month ≤ 11) :
    daysInMonth (year + if month < 10 then 0 else 1) (if month < 10 then month + 3 else month - 9) =
      if month = 11 then (if isLeapYear (year + 1) then 29 else 28)
      else if month = 1 ∨ month = 3 ∨ month = 6 ∨ month = 8 then 30 else 31 := by
  interval_cases month <;> simp [daysInMonth]

/-- Every date of the calendar lies on a day of a cycle. -/
theorem exists_dateOf_eq {d : CivilDate} (h : d.Valid) :
    ∃ cycle century span year dayOfYear day, IsDayOf century span year dayOfYear day ∧
      d = dateOf cycle (100 * century + 4 * span + year) dayOfYear := by
  obtain ⟨hfirst, hlast, hday, hle⟩ := h
  obtain ⟨y, m, hm, hy, hcount⟩ := exists_march ⟨hfirst, hlast⟩
  rw [hy, hcount, daysInMonth_march hm] at hle
  obtain ⟨hmonth, hdayOfYear⟩ := month_of_day hm hday (by split <;> omega) hle
  obtain ⟨cycle, yearOfCycle, hcycle, hyearOfCycle⟩ :
      ∃ (cycle : Int) (yearOfCycle : Nat), y = 400 * cycle + yearOfCycle ∧ yearOfCycle ≤ 399 :=
    ⟨y / 400, (y % 400).toNat, by omega, by omega⟩
  refine ⟨cycle, yearOfCycle / 100, yearOfCycle % 100 / 4, yearOfCycle % 4,
    daysBeforeMonth m + d.day - 1, _, ⟨rfl, by omega, by omega, by omega, ?_, fun hlong => ?_⟩, ?_⟩
  · split at hdayOfYear <;> omega
  · have hleap : isLeapYear (y + 1) = true := by
      split at hdayOfYear
      · assumption
      · omega
    simp only [isLeapYear, Bool.and_eq_true, Bool.or_eq_true, beq_iff_eq, bne_iff_ne] at hleap
    omega
  · have hyear : 100 * (yearOfCycle / 100) + 4 * (yearOfCycle % 100 / 4) + yearOfCycle % 4 =
        yearOfCycle := by omega
    have hback : daysBeforeMonth m + d.day - 1 - daysBeforeMonth m + 1 = d.day := by omega
    unfold dateOf
    dsimp only
    rw [hyear, hmonth, ← hcycle, hback, ← hy, ← hcount]

/-- The day with the number of a date of the calendar has that date. -/
theorem ofDays_toDays {d : CivilDate} (hd : d.Valid) : CivilDate.ofDays d.toDays = d := by
  obtain ⟨cycle, century, span, year, dayOfYear, day, hday, rfl⟩ := exists_dateOf_eq hd
  obtain ⟨cycle', century', span', year', dayOfYear', day', hday', hdays, hdate⟩ :=
    exists_ofDays_eq (dateOf cycle (100 * century + 4 * span + year) dayOfYear).toDays
  have hyear := hday.year_eq
  have hyear' := hday'.year_eq
  have hrest := hday.day_eq rfl
  have hrest' := hday'.day_eq rfl
  obtain ⟨heq, hcentury, hspan, hyear, hdayOfYear, _⟩ := hday
  obtain ⟨heq', hcentury', hspan', hyear', hdayOfYear', _⟩ := hday'
  rw [toDays_dateOf (by omega) hdayOfYear] at hdays
  have hsame : cycle = cycle' ∧ day = day' := by omega
  obtain ⟨rfl, rfl⟩ := hsame
  have hyears : 100 * century + 4 * span + year = 100 * century' + 4 * span' + year' := by omega
  have hdays : dayOfYear = dayOfYear' := by omega
  rw [hdate, hyears, hdays]

end HeadEnd.Calendar
