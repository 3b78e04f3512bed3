import Mathlib.Order.Lattice
import Mathlib.Order.Nat
import WikiDates.Proofs.Calendar.Linear

/-!
# The order of dates and instants

Dates are ordered by their day numbers and instants by their counts of microseconds. The linear views
agree with how dates and instants are written, the largest field first: `Date.lt_iff` compares years,
months and days one after another, and `Instant.le_iff` compares dates, then times of day.
-/

namespace WikiDates

open Calendar

namespace Date

/-- Dates in the order of their day numbers. -/
instance : LinearOrder Date := LinearOrder.lift' dayNumber fun _ _ => dayNumber_injective

variable {d e : Date}

theorem le_iff_dayNumber : d ≤ e ↔ d.dayNumber ≤ e.dayNumber := Iff.rfl

theorem lt_iff_dayNumber : d < e ↔ d.dayNumber < e.dayNumber := Iff.rfl

theorem lt_of_year_lt (h : d.year < e.year) : d < e := by
  have inYear := d.dayOfYear_le
  have next := daysBeforeYear_succ d.year_pos
  have mono := daysBeforeYear_mono (show d.year + 1 ≤ e.year from h)
  have later : 1 ≤ e.dayOfYear := Nat.le_trans e.day_pos (Nat.le_add_left _ _)
  rw [lt_iff_dayNumber, dayNumber_eq, dayNumber_eq]
  omega

theorem lt_of_month_lt (hyear : d.year = e.year) (h : d.month < e.month) : d < e := by
  have inMonth := d.day_le
  have next := daysBeforeMonth_succ d.year d.month_pos
  have mono := daysBeforeMonth_mono d.year (show d.month + 1 ≤ e.month from h)
  have later := e.day_pos
  rw [lt_iff_dayNumber]
  simp only [dayNumber, Calendar.dayNumber, ← hyear]
  omega

theorem lt_of_day_lt (hyear : d.year = e.year) (hmonth : d.month = e.month) (h : d.day < e.day) :
    d < e := by
  rw [lt_iff_dayNumber]
  simp only [dayNumber, Calendar.dayNumber, hyear, hmonth]
  omega

/-- The earlier one of two dates has the smaller year, month or day, whichever differs first. -/
theorem lt_iff :
    d < e ↔ d.year < e.year ∨ d.year = e.year ∧
      (d.month < e.month ∨ d.month = e.month ∧ d.day < e.day) := by
  constructor
  · intro h
    by_contra hnot
    -- Otherwise the dates are the same, or the other one is the earlier.
    rcases Nat.lt_trichotomy e.year d.year with hyear | hyear | hyear
    · exact lt_asymm h (lt_of_year_lt hyear)
    · rcases Nat.lt_trichotomy e.month d.month with hmonth | hmonth | hmonth
      · exact lt_asymm h (lt_of_month_lt hyear hmonth)
      · rcases Nat.lt_trichotomy e.day d.day with hday | hday | hday
        · exact lt_asymm h (lt_of_day_lt hyear hmonth hday)
        · exact lt_irrefl d ((Date.ext hyear hmonth hday : e = d) ▸ h)
        · exact hnot (.inr ⟨hyear.symm, .inr ⟨hmonth.symm, hday⟩⟩)
      · exact hnot (.inr ⟨hyear.symm, .inl hmonth⟩)
    · exact hnot (.inl hyear)
  · rintro (hyear | ⟨hyear, hmonth | ⟨hmonth, hday⟩⟩)
    · exact lt_of_year_lt hyear
    · exact lt_of_month_lt hyear hmonth
    · exact lt_of_day_lt hyear hmonth hday

end Date

namespace Instant

/-- Instants in the order of their counts. -/
instance : LinearOrder Instant := LinearOrder.lift' micros fun _ _ => micros_injective

variable {x y : Instant}

theorem le_iff_micros : x ≤ y ↔ x.micros ≤ y.micros := Iff.rfl

/-- An instant is not later than another if its date is not, nor its time on the same date. -/
theorem le_iff :
    x ≤ y ↔ x.date ≤ y.date ∧ (x.date = y.date → x.time.micros ≤ y.time.micros) := by
  have hx := x.time.micros_lt
  have hy := y.time.micros_lt
  have hxday := x.date.dayNumber_pos
  have hyday := y.date.dayNumber_pos
  have same : x.date = y.date ↔ x.date.dayNumber = y.date.dayNumber :=
    ⟨congrArg Date.dayNumber, Date.dayNumber_injective⟩
  rw [le_iff_micros, Date.le_iff_dayNumber, same]
  simp only [micros, microsPerDay]
  omega

end Instant
end WikiDates
