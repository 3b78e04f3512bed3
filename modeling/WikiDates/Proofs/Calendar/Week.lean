import WikiDates.Calendar.Week
import WikiDates.Proofs.Calendar.DayNumber

/-!
# The weeks at the ends of the calendar

A week may reach over the first or the last day of the calendar, and its number then asks for a year
that is not there. The first day of the calendar is a Monday; the last year starts and ends on a
Friday. So it depends on the rule of a locale alone which days are without a number, and
`WeekRule.weekOfYear_eq_error_iff` says which.
-/

namespace WikiDates

/-! ### The years at the ends -/

namespace Date

open Calendar

theorem year_eq_first {d : Date} (h : d.dayNumber ≤ 365) : d.year = 1 := by
  refine Decidable.byContradiction fun hyear => ?_
  have hmono : daysBeforeYear 2 ≤ daysBeforeYear d.year :=
    daysBeforeYear_mono (by have := d.year_pos; omega)
  have hfirst : daysBeforeYear 2 = 365 := rfl
  have hday := d.day_pos
  rw [dayNumber_eq, dayOfYear] at h
  omega

theorem year_eq_last {d : Date} (h : lastDay < d.dayNumber + 365) : d.year = 9999 := by
  refine Decidable.byContradiction fun hyear => ?_
  have hmono : daysBeforeYear (d.year + 1) ≤ daysBeforeYear 9999 :=
    daysBeforeYear_mono (by have := d.year_le; omega)
  have hlast : daysBeforeYear 9999 + 365 = lastDay := rfl
  have hnext := daysBeforeYear_succ d.year_pos
  have hinYear := d.dayOfYear_le
  rw [dayNumber_eq] at h
  omega

theorem month_eq_last {d : Date} (h : lastDay < d.dayNumber + 31) : d.month = 12 := by
  have hyear : d.year = 9999 := year_eq_last (by omega)
  refine Decidable.byContradiction fun hmonth => ?_
  have hle : d.month + 1 ≤ 12 := by
    have := d.month_le
    omega
  have hmono := daysBeforeMonth_mono d.year hle
  have hnext := daysBeforeMonth_succ d.year d.month_pos
  have hday := d.day_le
  have hbefore : daysBeforeYear 9999 + daysBeforeMonth 9999 12 + 31 = lastDay := rfl
  rw [dayNumber_eq, dayOfYear, hyear] at h
  rw [hyear] at hmono hnext hday
  omega

end Date

namespace Calendar.WeekRule

variable (rule : WeekRule) (d : Date)

/-! ### Counting from the first day of the year -/

theorem daysBefore_lt (weekday : Int) : rule.daysBefore weekday < 7 := by
  unfold daysBefore
  omega

theorem daysBefore_congr {v w : Int} (h : v % 7 = w % 7) :
    rule.daysBefore v = rule.daysBefore w := by
  unfold daysBefore
  omega

/-- The week of a date counts from the day of the week on which its year starts. -/
theorem weekNumber_eq :
    rule.weekNumber d.dayOfYear d.weekday =
      if rule.minDays + rule.daysBefore (daysBeforeYear d.year) ≤ 7 then
        (d.dayOfYear + rule.daysBefore (daysBeforeYear d.year) - 1) / 7 + 1
      else (d.dayOfYear + rule.daysBefore (daysBeforeYear d.year) - 1) / 7 := by
  have hlead : rule.daysBefore ((d.weekday : Int) - d.dayOfYear + 1) =
      rule.daysBefore (daysBeforeYear d.year) := by
    apply daysBefore_congr
    rw [Date.weekday, Date.dayNumber_eq]
    omega
  have hlt := rule.daysBefore_lt (daysBeforeYear d.year)
  unfold weekNumber
  rw [hlead]
  dsimp only
  split <;> split <;> omega

/-- The date lies before the first week of the first year. -/
def IsBeforeFirst : Prop :=
  7 < rule.minDays + rule.daysBefore 0 ∧ d.dayNumber + rule.daysBefore 0 ≤ 7

/-- The date lies in a last week of the last year that is its 53rd. -/
def IsBeyondLast : Prop :=
  rule.minDays + rule.daysBefore 4 ≤ 7 ∧ lastDay ≤ d.dayNumber + rule.daysBefore 4

theorem isBeforeFirst_iff :
    rule.IsBeforeFirst d ↔ d.year = firstYear ∧ rule.weekNumber d.dayOfYear d.weekday = 0 := by
  have hstart : daysBeforeYear firstYear = 0 := rfl
  have hlead : rule.daysBefore (daysBeforeYear firstYear) = rule.daysBefore 0 := rfl
  have hlt := rule.daysBefore_lt 0
  have hday := d.dayNumber_pos
  rw [weekNumber_eq]
  unfold IsBeforeFirst
  constructor
  · rintro ⟨hfew, hearly⟩
    have hyear : d.year = firstYear := Date.year_eq_first (by omega)
    rw [Date.dayNumber_eq, hyear, hstart] at hearly
    rw [hyear, hlead]
    refine ⟨rfl, ?_⟩
    split <;> omega
  · rintro ⟨hyear, hzero⟩
    rw [Date.dayNumber_eq, hyear, hstart] at hday ⊢
    rw [hyear, hlead] at hzero
    split at hzero <;> omega

theorem isBeyondLast_iff :
    rule.IsBeyondLast d ↔ d.year = lastYear ∧ 52 < rule.weekNumber d.dayOfYear d.weekday := by
  -- With 365 days, the last year ends on the day of the week on which it starts.
  have hstart : daysBeforeYear lastYear + 365 = lastDay := rfl
  have hlead : rule.daysBefore (daysBeforeYear lastYear) = rule.daysBefore 4 :=
    rule.daysBefore_congr (by decide)
  have hlt := rule.daysBefore_lt 4
  have hlength : daysInYear lastYear = 365 := rfl
  have hinYear := d.dayOfYear_le
  rw [weekNumber_eq]
  unfold IsBeyondLast
  constructor
  · rintro ⟨hmany, hlate⟩
    -- A week is shorter than a year, so the day lies in the last year.
    have hyear : d.year = lastYear := Date.year_eq_last (by omega)
    rw [Date.dayNumber_eq, hyear] at hlate
    rw [hyear, hlead]
    refine ⟨rfl, ?_⟩
    split <;> omega
  · rintro ⟨hyear, hlarge⟩
    rw [hyear, hlength] at hinYear
    rw [hyear, hlead] at hlarge
    rw [Date.dayNumber_eq, hyear]
    split at hlarge <;> omega

/-- **A week has no number exactly if it asks for a year outside the calendar.** -/
theorem weekOfYear_eq_error_iff {rule : WeekRule} {d : Date} {year : Nat} :
    rule.weekOfYear d = .error year ↔
      rule.IsBeforeFirst d ∧ year = 0 ∨ rule.IsBeyondLast d ∧ year = 10000 := by
  rw [isBeforeFirst_iff, isBeyondLast_iff]
  unfold weekOfYear
  generalize rule.weekNumber d.dayOfYear d.weekday = week
  have hyears : firstYear ≠ lastYear := by decide
  dsimp only
  split
  · next hzero =>
      split
      · next hfirst => simp [hzero, hfirst, firstYear, lastYear, eq_comm]
      · next hfirst => simp [hzero, hfirst]
  · next hzero =>
      split
      · next hlarge =>
          split
          · next hlast => simp [hlast, hlarge, hzero, lastYear, eq_comm]
          · next hlast =>
              split <;> simp [hzero, hlast]
      · next hlarge => simp [hzero, hlarge]

end Calendar.WeekRule
end WikiDates
