import WikiDates.Calendar.Date

/-!
# Weeks

Weeks are counted within a period, a month or a year, by two rules of the reader's locale: the day
that starts a week, and the least number of days that the first week must have within the period.
The days before the first week belong to a week 0.

In a year, a week 0 is the last week of the year before, and a last week of which enough days lie in
the next year is that year's first. At the two ends of the calendar there is no such year to look
at: the error is the number of the missing year.
-/

namespace WikiDates.Calendar

/-- How a locale counts weeks. -/
structure WeekRule where
  /-- The day that starts the week, counted from 0 for Monday. -/
  firstWeekday : Nat
  /-- The least number of days of the first week that lie in the period. -/
  minDays : Nat
  deriving DecidableEq, Repr

namespace WeekRule

/-- How many days of the week lie before a day of the week. -/
def daysBefore (rule : WeekRule) (weekday : Int) : Nat := ((weekday - rule.firstWeekday) % 7).toNat

/-- The number of the week of a day within a period, from the number of the day in the period, which
counts from 1, and its day of the week. -/
def weekNumber (rule : WeekRule) (day weekday : Nat) : Nat :=
  let lead := rule.daysBefore ((weekday : Int) - day + 1)
  let whole := (day + lead - 1) / 7
  if rule.minDays ≤ 7 - lead then whole + 1 else whole

/-- The number of the week of a date within its year. -/
def weekOfYear (rule : WeekRule) (d : Date) : Except Nat Nat :=
  let week := rule.weekNumber d.dayOfYear d.weekday
  if week = 0 then
    if d.year = firstYear then .error (firstYear - 1)
    else
      .ok (rule.weekNumber (daysInYear (d.year - 1)) ((daysBeforeYear d.year + 6) % 7))
  else if 52 < week then
    if d.year = lastYear then .error (lastYear + 1)
    else
      let newYear := daysBeforeYear (d.year + 1) % 7
      if rule.weekNumber 1 newYear = 1 ∧ 32 - rule.daysBefore newYear ≤ d.day then .ok 1
      else .ok week
  else .ok week

/-- The year to which the week of a date belongs. -/
def weekYear (rule : WeekRule) (d : Date) : Except Nat Nat :=
  if d.month = 1 ∧ d.day < 7 then
    (rule.weekOfYear d).map fun week => if 52 ≤ week then d.year - 1 else d.year
  else if d.month = 12 ∧ 25 < d.day then
    (rule.weekOfYear d).map fun week => if week ≤ 2 then d.year + 1 else d.year
  else .ok d.year

end WeekRule
end WikiDates.Calendar
