/-! # The civil calendar

Days of the proleptic Gregorian calendar and their numbers, counted from 1970-01-01. Years may be
zero or negative.

The conversions look at the year as beginning in March: the leap day is then the last day of a
year, and the months before a date are counted by one linear formula.
-/

namespace HeadEnd.Calendar

/-- A date of the civil calendar; nothing keeps the day within its month. -/
structure CivilDate where
  year : Int
  month : Nat
  day : Nat
  deriving DecidableEq

def isLeapYear (year : Int) : Bool :=
  year % 4 == 0 && (year % 100 != 0 || year % 400 == 0)

def daysInMonth (year : Int) (month : Nat) : Nat :=
  if month = 2 then (if isLeapYear year then 29 else 28)
  else if month = 4 ∨ month = 6 ∨ month = 9 ∨ month = 11 then 30
  else 31

/-- The date is a day of the calendar. -/
def CivilDate.Valid (d : CivilDate) : Prop :=
  1 ≤ d.month ∧ d.month ≤ 12 ∧ 1 ≤ d.day ∧ d.day ≤ daysInMonth d.year d.month

instance (d : CivilDate) : Decidable d.Valid :=
  inferInstanceAs (Decidable (_ ∧ _ ∧ _ ∧ _))

/-- Days from 0000-03-01 to 1970-01-01. -/
def epochOffset : Int := 719468

/-- Days from the first of March to the first day of the month, counted from March as 0. -/
def daysBeforeMonth (month : Nat) : Nat :=
  (153 * month + 2) / 5

/-- The number of a date: days since 1970-01-01. -/
def CivilDate.toDays (d : CivilDate) : Int :=
  let year := if d.month ≤ 2 then d.year - 1 else d.year
  let month := (d.month + 9) % 12
  365 * year + year / 4 - year / 100 + year / 400
    + (daysBeforeMonth month + d.day : Nat) - 1 - epochOffset

/-- The date with the given number. A cycle of 400 years has 146097 days. -/
def CivilDate.ofDays (days : Int) : CivilDate :=
  let shifted := days + epochOffset
  let cycle := shifted / 146097
  let dayOfCycle := (shifted % 146097).toNat
  let year := (dayOfCycle - dayOfCycle / 1460 + dayOfCycle / 36524 - dayOfCycle / 146096) / 365
  let dayOfYear := dayOfCycle - (365 * year + year / 4 - year / 100)
  let month := (5 * dayOfYear + 2) / 153
  { year := 400 * cycle + year + (if month < 10 then 0 else 1)
    month := if month < 10 then month + 3 else month - 9
    day := dayOfYear - daysBeforeMonth month + 1 }

/-- The day of the week of a numbered day, from 1 for Monday to 7 for Sunday. -/
def weekday (days : Int) : Nat :=
  ((days + 3) % 7).toNat + 1

end HeadEnd.Calendar
