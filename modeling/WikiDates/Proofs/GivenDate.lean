import Mathlib.Data.List.Basic
import WikiDates.Proofs.Override

/-!
# Setting a whole date

An override that sets the year, the month and the day, in this order, does not quite forget the date
that it starts from. The day of the month is carried along until it is set itself: a month that is
too short for it carries it into the next month, and the day is then set in that one.

`Instant.override_expression` says which of the two happens. `Calendar.exists_date_from_first` is
one step of the three: it counts on from the first of a month by the days of some month.
-/

namespace WikiDates

open Calendar Results

/-! ### Counting on from the first of a month -/

namespace Calendar

/-- A leap year adds one day at most. -/
theorem daysInMonth_le_succ (year year' month : Nat) :
    daysInMonth year month ≤ daysInMonth year' month + 1 := by
  unfold daysInMonth
  split
  · split <;> split <;> decide
  all_goals exact Nat.le_succ _

/-- A short month is not the last one, and a month with 31 days follows. -/
theorem succ_of_daysInMonth_lt {year month : Nat} (h : daysInMonth year month < 31) :
    month < 12 ∧ daysInMonth year (month + 1) = 31 := by
  unfold daysInMonth at h
  split at h
  · exact ⟨by decide, rfl⟩
  · exact ⟨by decide, rfl⟩
  · exact ⟨by decide, rfl⟩
  · exact ⟨by decide, rfl⟩
  · exact ⟨by decide, rfl⟩
  · exact absurd h (Nat.lt_irrefl 31)

/-- A day counted from the first of a month lies in that month or in the next one. -/
theorem exists_date_from_first {year month day : Nat} (hyear : 1 ≤ year ∧ year ≤ 9999)
    (hmonth : 1 ≤ month ∧ month ≤ 12) (hday : 1 ≤ day ∧ day ≤ 31) :
    ∃ d : Date, (d.dayNumber : Int) = Calendar.dayNumber year month 1 + ((day : Int) - 1) ∧
      d.year = year ∧
      (day ≤ daysInMonth year month → d.month = month ∧ d.day = day) ∧
      (daysInMonth year month < day →
        d.month = month + 1 ∧ d.day = day - daysInMonth year month) := by
  by_cases hfits : day ≤ daysInMonth year month
  · refine ⟨⟨year, month, day, hyear.1, hyear.2, hmonth.1, hmonth.2, hday.1, hfits⟩, ?_, rfl,
      fun _ => ⟨rfl, rfl⟩, fun hlong => absurd hfits (Nat.not_le_of_lt hlong)⟩
    simp only [Date.dayNumber, Calendar.dayNumber]
    omega
  · have hlong : daysInMonth year month < day := Nat.lt_of_not_le hfits
    obtain ⟨hlast, hnext⟩ := succ_of_daysInMonth_lt (Nat.lt_of_lt_of_le hlong hday.2)
    have hbefore := daysBeforeMonth_succ year hmonth.1
    refine ⟨⟨year, month + 1, day - daysInMonth year month, hyear.1, hyear.2,
      Nat.le_add_left 1 month, hlast, Nat.sub_pos_of_lt hlong, by omega⟩, ?_, rfl,
      fun hfits' => absurd hfits' hfits, fun _ => ⟨rfl, rfl⟩⟩
    simp only [Date.dayNumber, Calendar.dayNumber]
    omega

end Calendar

/-! ### The three steps -/

namespace Date

/-- The expression that sets the year, the month and the day of a date. -/
def expression (t : Date) : Expression :=
  [⟨.year, t.year⟩, ⟨.month, t.month - 1⟩, ⟨.day, t.day⟩]

/-- The day of the month that setting the year leaves: February 29th becomes March 1st in a year
without it. -/
def dayInYear (d : Date) (year : Nat) : Nat :=
  if d.day ≤ daysInMonth year d.month then d.day else 1

/-- The month of `t` has the day that setting the year leaves of `d`. -/
def FitsInMonthOf (d t : Date) : Prop := d.dayInYear t.year ≤ daysInMonth t.year t.month

instance (d t : Date) : Decidable (d.FitsInMonthOf t) := by
  unfold FitsInMonthOf
  infer_instance

theorem day_le_31 (d : Date) : d.day ≤ 31 := Nat.le_trans d.day_le (daysInMonth_le _ _)

end Date

namespace Instant

variable {x : Instant}

/-- Setting the year keeps the day, or makes it the first. -/
theorem overrideOne_year {year : Nat} (h : 1 ≤ year ∧ year ≤ 9999) :
    ∃ d : Date, x.overrideOne ⟨.year, year⟩ = .ok ⟨d, x.time⟩ ∧ d.year = year ∧
      d.day = x.date.dayInYear year := by
  obtain ⟨d, hcount, hyear, hfits, hlong⟩ := exists_date_from_first h
    ⟨x.date.month_pos, x.date.month_le⟩ ⟨x.date.day_pos, x.date.day_le_31⟩
  refine ⟨d, ?_, hyear, ?_⟩
  · rw [overrideOne_year_eq_ok_iff]
    exact ⟨h, micros_eq_countOn_iff.mpr ⟨hcount, rfl⟩⟩
  · unfold Date.dayInYear
    split
    · next hday => exact (hfits hday).2
    · next hday =>
        -- The day is a February 29th, one day too late for the year.
        have hlate := x.date.day_le
        have hleap := daysInMonth_le_succ x.date.year year x.date.month
        have hleft := (hlong (Nat.lt_of_not_le hday)).2
        omega

/-- Setting the month keeps the day, or carries it into the next month. -/
theorem overrideOne_month {month : Nat} (h : 1 ≤ month ∧ month ≤ 12) :
    ∃ d : Date, x.overrideOne ⟨.month, month - 1⟩ = .ok ⟨d, x.time⟩ ∧ d.year = x.date.year ∧
      (x.date.day ≤ daysInMonth x.date.year month → d.month = month) ∧
      (daysInMonth x.date.year month < x.date.day → d.month = month + 1) := by
  obtain ⟨d, hcount, hyear, hfits, hlong⟩ := exists_date_from_first
    ⟨x.date.year_pos, x.date.year_le⟩ h ⟨x.date.day_pos, x.date.day_le_31⟩
  refine ⟨d, ?_, hyear, fun hday => (hfits hday).1, fun hday => (hlong hday).1⟩
  have hsame : x.date.year + (month - 1) / 12 = x.date.year ∧ (month - 1) % 12 + 1 = month := by
    omega
  rw [overrideOne_month_eq_ok_iff, hsame.1, hsame.2]
  exact micros_eq_countOn_iff.mpr ⟨hcount, rfl⟩

/-- Setting a day that the month has sets the day. -/
theorem overrideOne_day {day : Nat} (h : 1 ≤ day)
    (hle : day ≤ daysInMonth x.date.year x.date.month) :
    ∃ d : Date, x.overrideOne ⟨.day, day⟩ = .ok ⟨d, x.time⟩ ∧ d.year = x.date.year ∧
      d.month = x.date.month ∧ d.day = day := by
  obtain ⟨d, hcount, hyear, hfits, -⟩ := exists_date_from_first
    ⟨x.date.year_pos, x.date.year_le⟩ ⟨x.date.month_pos, x.date.month_le⟩
    ⟨h, Nat.le_trans hle (daysInMonth_le _ _)⟩
  refine ⟨d, ?_, hyear, hfits hle⟩
  rw [overrideOne_day_eq_ok_iff]
  exact micros_eq_countOn_iff.mpr ⟨hcount, rfl⟩

/-! ### A whole date -/

/-- Setting a whole date leads to that day of the month, or of the month after it. -/
theorem exists_override_expression (x : Instant) (t : Date) :
    ∃ d : Date, x.override t.expression = .ok ⟨d, x.time⟩ ∧ d.year = t.year ∧
      d.month = (if x.date.FitsInMonthOf t then t.month else t.month + 1) ∧ d.day = t.day := by
  obtain ⟨d₁, hset₁, hyear₁, hday₁⟩ := overrideOne_year (x := x) ⟨t.year_pos, t.year_le⟩
  obtain ⟨d₂, hset₂, hyear₂, hfits, hlong⟩ :=
    overrideOne_month (x := ⟨d₁, x.time⟩) ⟨t.month_pos, t.month_le⟩
  dsimp only at hyear₂ hfits hlong
  rw [hyear₁, hday₁] at hfits hlong
  -- The month that is too long to be filled comes after a short one, so it has the day.
  have hmonth₂ : d₂.month = (if x.date.FitsInMonthOf t then t.month else t.month + 1) ∧
      t.day ≤ daysInMonth d₂.year d₂.month := by
    rw [hyear₂, hyear₁]
    split
    · next h =>
        rw [hfits h]
        exact ⟨rfl, t.day_le⟩
    · next h =>
        have hshort : daysInMonth t.year t.month < 31 := by
          have := d₁.day_le_31
          have : daysInMonth t.year t.month < x.date.dayInYear t.year := Nat.lt_of_not_le h
          omega
        rw [hlong (Nat.lt_of_not_le h), (succ_of_daysInMonth_lt hshort).2]
        exact ⟨rfl, t.day_le_31⟩
  obtain ⟨d₃, hset₃, hyear₃, hmonth₃, hday₃⟩ :=
    overrideOne_day (x := ⟨d₂, x.time⟩) t.day_pos hmonth₂.2
  refine ⟨d₃, ?_, ?_, ?_, hday₃⟩
  · exact override_cons_eq_ok_iff.mpr ⟨_, hset₁, override_cons_eq_ok_iff.mpr
      ⟨_, hset₂, override_cons_eq_ok_iff.mpr ⟨_, hset₃, rfl⟩⟩⟩
  · rw [hyear₃, hyear₂, hyear₁]
  · rw [hmonth₃, hmonth₂.1]

/-- **A date that is set is the date that is reached, unless its month is too short for the day
before.** Setting a whole date always leads to an instant at the same time of day. Its date is the
given one exactly if the month of that date has the day that setting the year leaves; otherwise it
is the same day of the next month. So two instants at one time of day lead to the same instant
exactly if this holds of both or of neither. -/
theorem override_expression (x : Instant) (t : Date) :
    (x.date.FitsInMonthOf t → x.override t.expression = .ok ⟨t, x.time⟩) ∧
      (¬ x.date.FitsInMonthOf t → ∃ d : Date, x.override t.expression = .ok ⟨d, x.time⟩ ∧
        d.year = t.year ∧ d.month = t.month + 1 ∧ d.day = t.day) ∧
      ∀ y : Instant, y.time = x.time →
        (x.override t.expression = y.override t.expression ↔
          (x.date.FitsInMonthOf t ↔ y.date.FitsInMonthOf t)) := by
  obtain ⟨d, hset, hyear, hmonth, hday⟩ := exists_override_expression x t
  refine ⟨?_, ?_, ?_⟩
  · intro h
    rw [if_pos h] at hmonth
    rw [hset, Date.ext hyear hmonth hday]
  · intro h
    rw [if_neg h] at hmonth
    exact ⟨d, hset, hyear, hmonth, hday⟩
  · intro y htime
    obtain ⟨d', hset', hyear', hmonth', hday'⟩ := exists_override_expression y t
    rw [hset, hset', htime]
    constructor
    · intro h
      have hsame : d.month = d'.month := by
        cases h
        rfl
      rw [hmonth, hmonth'] at hsame
      by_cases hx : x.date.FitsInMonthOf t <;> by_cases hy : y.date.FitsInMonthOf t <;>
        simp [hx, hy] at hsame ⊢
    · intro h
      simp only [h] at hmonth
      have hsame : d = d' := Date.ext (hyear.trans hyear'.symm) (hmonth.trans hmonth'.symm)
        (hday.trans hday'.symm)
      rw [hsame]

/-- On January 31st, setting February 15th leads to March 15th. -/
theorem february_carries_january_31st :
    let x := ofDate ⟨2011, 1, 31, by decide, by decide, by decide, by decide, by decide, by decide⟩
    let t : Date :=
      ⟨2011, 2, 15, by decide, by decide, by decide, by decide, by decide, by decide⟩
    let d : Date :=
      ⟨2011, 3, 15, by decide, by decide, by decide, by decide, by decide, by decide⟩
    x.override t.expression = .ok ⟨d, x.time⟩ ∧ d ≠ t := by
  intro x t d
  exact ⟨by decide +kernel, by decide⟩

end Instant
end WikiDates
