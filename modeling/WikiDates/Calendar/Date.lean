/-!
# Dates of the proleptic Gregorian calendar

A date is a year from 1 to 9999, a month and a day of that month. Its linear view is the *day
number*, which counts the days from 1 for 0001-01-01 up to `lastDay` for 9999-12-31. Arithmetic on
days is arithmetic on day numbers: `Date.dayNumber` leads into that view and `Date.ofDayNumber?` out
of it.
-/

namespace WikiDates

namespace Calendar

/-- The first year of the calendar. -/
def firstYear : Nat := 1

/-- The last year of the calendar. -/
def lastYear : Nat := 9999

/-- A year is a leap year if 4 divides it, except for the centuries that 400 does not divide. -/
def isLeap (year : Nat) : Bool := year % 4 == 0 && (year % 100 != 0 || year % 400 == 0)

/-- The number of days in a month. -/
def daysInMonth (year : Nat) : Nat → Nat
  | 2 => if isLeap year then 29 else 28
  | 4 | 6 | 9 | 11 => 30
  | _ => 31

theorem daysInMonth_ge (year month : Nat) : 28 ≤ daysInMonth year month := by
  unfold daysInMonth
  split
  · split <;> decide
  all_goals decide

/-- The number of days in a year. -/
def daysInYear (year : Nat) : Nat := if isLeap year then 366 else 365

/-- The number of days before the first day of a year. -/
def daysBeforeYear (year : Nat) : Nat :=
  365 * (year - 1) + (year - 1) / 4 - (year - 1) / 100 + (year - 1) / 400

/-- The number of days of a year before the first day of a month. -/
def daysBeforeMonth (year : Nat) : Nat → Nat
  | 0 => 0
  | 1 => 0
  | month + 2 => daysBeforeMonth year (month + 1) + daysInMonth year (month + 1)

/-- The day number of a year, month and day, which need not be a date. -/
def dayNumber (year month day : Nat) : Nat :=
  daysBeforeYear year + daysBeforeMonth year month + day

/-- The day number of 9999-12-31. -/
def lastDay : Nat := 3652059

/-- The year in which day number `n` lies. The mean length of a year gives it up to one. -/
def yearOfDay (n : Nat) : Nat :=
  let guess := (n - 1) * 400 / 146097 + 1
  if n ≤ daysBeforeYear guess then guess - 1
  else if daysBeforeYear (guess + 1) < n then guess + 1
  else guess

/-- The month and the day of the month that lie `day` days into the months from `month` on, when
`months` further months follow. -/
def monthAndDay (year : Nat) : (months month day : Nat) → Nat × Nat
  | 0, month, day => (month, day)
  | months + 1, month, day =>
    if day ≤ daysInMonth year month then (month, day)
    else monthAndDay year months (month + 1) (day - daysInMonth year month)

end Calendar

/-- A date. -/
structure Date where
  /-- The year, from 1 to 9999. -/
  year : Nat
  /-- The month, from 1 to 12. -/
  month : Nat
  /-- The day of the month, from 1. -/
  day : Nat
  year_pos : 1 ≤ year
  year_le : year ≤ 9999
  month_pos : 1 ≤ month
  month_le : month ≤ 12
  day_pos : 1 ≤ day
  day_le : day ≤ Calendar.daysInMonth year month
  deriving DecidableEq, Repr

namespace Date

/-- The date with the given fields, if there is one. -/
def of? (year month day : Nat) : Option Date :=
  if h : (1 ≤ year ∧ year ≤ 9999) ∧ (1 ≤ month ∧ month ≤ 12) ∧
      1 ≤ day ∧ day ≤ Calendar.daysInMonth year month then
    some ⟨year, month, day, h.1.1, h.1.2, h.2.1.1, h.2.1.2, h.2.2.1, h.2.2.2⟩
  else none

/-- The number of the date, counted from 1 for 0001-01-01. -/
def dayNumber (d : Date) : Nat := Calendar.dayNumber d.year d.month d.day

/-- The number of the date within its year, counted from 1. -/
def dayOfYear (d : Date) : Nat := Calendar.daysBeforeMonth d.year d.month + d.day

/-- The date with day number `n`, if it lies in the calendar. -/
def ofDayNumber? (n : Nat) : Option Date :=
  let year := Calendar.yearOfDay n
  let (month, day) := Calendar.monthAndDay year 11 1 (n - Calendar.daysBeforeYear year)
  of? year month day

/-- The date `days` days away, if it lies in the calendar. -/
def addDays? (d : Date) (days : Int) : Option Date :=
  let n := (d.dayNumber : Int) + days
  if 1 ≤ n ∧ n ≤ Calendar.lastDay then ofDayNumber? n.toNat else none

/-- The day of the week, counted from 0 for Monday. -/
def weekday (d : Date) : Nat := (d.dayNumber + 6) % 7

end Date
end WikiDates
