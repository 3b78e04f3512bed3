import WikiDates.Proofs.Calendar.Shift
import WikiDates.Proofs.Carrying

/-!
# What an override leads to

An override is stated here on counts. `Assignment.overrideCount` is the count that setting one unit
leads to: a day number that is counted on from the first of a month, or a time that is counted on
from a clock with one field at zero. The count need not be that of an instant.

`Instant.override_exact` says that setting all units of an expression follows these counts step by
step, and succeeds exactly if all of them are counts of instants and every year that is set is a
year of the calendar.
-/

namespace WikiDates

open Calendar TimeOfDay Results

theorem Instant.shift_eq_ok_iff {x y : Instant} {s : Shift} :
    x.shift s = .ok y ↔ s.isCarriable = true ∧ s.addTo x = .ok y := by
  unfold Instant.shift
  split
  · next h => simp [mapError_eq_ok_iff, h]
  · next h => simp [h]

/-! ### The calendar as a range of counts -/

namespace Instant

/-- 0001-01-01T00:00:00. -/
def first : Instant := ⟨⟨1, 1, 1, by decide, by decide, by decide, by decide, by decide, by decide⟩,
  .midnight⟩

/-- 9999-12-31T23:59:59.999999. -/
def last : Instant :=
  ⟨⟨9999, 12, 31, by decide, by decide, by decide, by decide, by decide, by decide⟩,
    .ofFields 23 59 59 999999⟩

/-- A count lies between the counts of the first and the last instant. -/
def InCalendar (count : Int) : Prop := (first.micros : Int) ≤ count ∧ count ≤ last.micros

theorem inCalendar_iff {count : Int} :
    InCalendar count ↔ ∃ x : Instant, (x.micros : Int) = count := by
  have hfirst : first.micros = 0 := by decide
  have hlast : last.micros + 1 = microsInCalendar := by decide
  constructor
  · rintro ⟨hlow, hhigh⟩
    obtain ⟨x, hx⟩ := exists_micros (n := count.toNat) (by omega)
    exact ⟨x, by omega⟩
  · rintro ⟨x, rfl⟩
    have := x.micros_lt
    exact ⟨by omega, by omega⟩

end Instant

/-! ### One unit -/

namespace Assignment

open Instant

/-- The count that setting a unit leads to. -/
def overrideCount (a : Assignment) (x : Instant) : Int :=
  let d := x.date
  let t := x.time
  let v := a.magnitude
  match a.unit with
  | .year => countOn (Calendar.dayNumber v d.month 1 + (d.day - 1)) t.micros
  | .month =>
    countOn (Calendar.dayNumber (d.year + v / 12) (v % 12 + 1) 1 + (d.day - 1)) t.micros
  | .day => countOn (Calendar.dayNumber d.year d.month 1 + (v - 1)) t.micros
  | .hour =>
    countOn d.dayNumber (countMicros 0 t.minute t.second t.microsecond) + v * microsPerHour
  | .minute =>
    countOn d.dayNumber (countMicros t.hour 0 t.second t.microsecond) + v * microsPerMinute
  | .second =>
    countOn d.dayNumber (countMicros t.hour t.minute 0 t.microsecond) + v * microsPerSecond
  | .millisecond =>
    countOn d.dayNumber (countMicros t.hour t.minute t.second 0) + v * 1000

/-- A year that is set is a year of the calendar. -/
def YearInCalendar (a : Assignment) : Prop :=
  a.unit = .year → 1 ≤ a.magnitude ∧ a.magnitude ≤ 9999

/-- The unit is a field of the clock. -/
def IsOfClock (a : Assignment) : Prop := a.unit ≠ .year ∧ a.unit ≠ .month ∧ a.unit ≠ .day

/-- Setting a field of the clock starts from the day of the instant. -/
theorem overrideShift_of_clock {a : Assignment} (h : a.IsOfClock) (d : Date) :
    (a.overrideShift d.day).monthIndexFrom d = monthIndex d.year d.month ∧
      (a.overrideShift d.day).dayFrom d = d.day := by
  obtain ⟨unit, v⟩ := a
  obtain ⟨hyear, hmonth, hday⟩ := h
  cases unit with
  | year => exact absurd rfl hyear
  | month => exact absurd rfl hmonth
  | day => exact absurd rfl hday
  | hour | minute | second | millisecond =>
      simp [Shift.monthIndexFrom, Shift.dayFrom, overrideShift]

end Assignment

namespace Instant

theorem overrideOne_eq_ok_iff_shift {x y : Instant} {a : Assignment} :
    x.overrideOne a = .ok y ↔
      (a.unit = .year → 1 ≤ a.magnitude) ∧ (a.overrideShift x.date.day).isCarriable = true ∧
        (a.overrideShift x.date.day).addTo x = .ok y := by
  unfold overrideOne
  split
  · next h =>
      constructor
      · intro hfail
        cases hfail
      · rintro ⟨hyear, -⟩
        have := hyear h.1
        omega
  · next h =>
      rw [shift_eq_ok_iff]
      constructor
      · intro hshift
        exact ⟨fun hyear => Nat.le_of_not_lt fun hlt => h ⟨hyear, hlt⟩, hshift⟩
      · rintro ⟨-, hshift⟩
        exact hshift

theorem countOn_nonneg (d : Date) (n : Nat) : 0 ≤ countOn d.dayNumber n := by
  have := d.dayNumber_pos
  simp only [countOn, microsPerDay]
  omega

theorem micros_small (x : Instant) : (x.micros : Int) < 1000000000000000000 := by
  have := x.micros_lt
  simp only [microsInCalendar, microsPerDay, lastDay] at this
  omega

/-- Only an amount of astronomical size cannot be carried. -/
theorem isCarriable_of_size {day : Nat} {a : Assignment} (h : a.size < 1000000000000000000) :
    (a.overrideShift day).isCarriable = true := by
  rw [Shift.isCarriable_overrideShift_iff]
  intro _
  exact Nat.lt_of_lt_of_le h Shift.limit_large

/-- Setting a field of the clock counts on from the clock with that field at zero. -/
theorem overrideOne_eq_ok_iff_of_clock {x y : Instant} {a : Assignment} {start size : Nat}
    (hclock : a.IsOfClock) (hsize : 0 < size)
    (hstart : (x.time.cleared (a.overrideShift x.date.day).reset).micros = start)
    (hlength : (a.overrideShift x.date.day).length = a.size * size) :
    x.overrideOne a = .ok y ↔
      a.YearInCalendar ∧ (y.micros : Int) = countOn x.date.dayNumber start + a.size * size := by
  obtain ⟨hindex, hday⟩ := Assignment.overrideShift_of_clock hclock x.date
  rw [overrideOne_eq_ok_iff_shift, Shift.addTo_eq_ok_iff_of_same hindex hday, hstart, hlength]
  constructor
  · rintro ⟨-, -, h⟩
    exact ⟨fun hyear => absurd hyear hclock.1, h⟩
  · rintro ⟨-, h⟩
    -- The sum is the count of an instant, so the amount is small enough to be carried.
    have hsmall : a.size < 1000000000000000000 := by
      have := countOn_nonneg x.date start
      have := y.micros_small
      have hle : a.size * 1 ≤ a.size * size := Nat.mul_le_mul_left _ hsize
      omega
    exact ⟨fun hyear => absurd hyear hclock.1, isCarriable_of_size hsmall, h⟩

/-- Setting a field of the date counts days from the first of a month and keeps the time. -/
theorem overrideOne_eq_ok_iff_of_first {x y : Instant} {a : Assignment} {year month : Nat}
    {days : Int} (hmonth : 1 ≤ month ∧ month ≤ 12)
    (hindex : (a.overrideShift x.date.day).monthIndexFrom x.date = monthIndex year month)
    (hday : (a.overrideShift x.date.day).dayFrom x.date = 1)
    (htime : x.time.cleared (a.overrideShift x.date.day).reset = x.time)
    (hlength : (a.overrideShift x.date.day).length = days * microsPerDay) :
    x.overrideOne a = .ok y ↔
      (a.unit = .year → 1 ≤ a.magnitude) ∧ (a.overrideShift x.date.day).isCarriable = true ∧
        (1 ≤ year ∧ year ≤ 9999) ∧
          (y.micros : Int) = countOn (Calendar.dayNumber year month 1 + days) x.time.micros := by
  have hmin : min 1 (daysInMonth year month) = 1 := by
    have := daysInMonth_ge year month
    omega
  have hsum : countOn (Calendar.dayNumber year month 1) x.time.micros + days * microsPerDay =
      countOn (Calendar.dayNumber year month 1 + days) x.time.micros := by
    simp only [countOn, microsPerDay]
    omega
  rw [overrideOne_eq_ok_iff_shift, Shift.addTo_eq_ok_iff_of_index hmonth hindex, hday, htime,
    hlength, hmin, hsum]

/-- No day that is counted on from a year beyond the calendar lies in it. -/
theorem year_le_of_micros_eq {y : Instant} {year month n : Nat} {days : Int} (hdays : 0 ≤ days)
    (h : (y.micros : Int) = countOn (Calendar.dayNumber year month 1 + days) n) :
    year ≤ 9999 := by
  apply Nat.le_of_lt_succ
  apply Nat.lt_of_not_le
  intro hbig
  have mono := daysBeforeYear_mono hbig
  have last : daysBeforeYear (Nat.succ 9999) = lastDay := by decide
  have hlt := y.micros_lt
  simp only [countOn, Calendar.dayNumber, microsInCalendar, microsPerDay] at h hlt
  omega

theorem overrideOne_year_eq_ok_iff {x y : Instant} {v : Nat} :
    x.overrideOne ⟨.year, v⟩ = .ok y ↔ (1 ≤ v ∧ v ≤ 9999) ∧
      (y.micros : Int) =
        countOn (Calendar.dayNumber v x.date.month 1 + (x.date.day - 1)) x.time.micros := by
  have hmonth : 1 ≤ x.date.month ∧ x.date.month ≤ 12 := ⟨x.date.month_pos, x.date.month_le⟩
  have hindex : (Assignment.overrideShift x.date.day ⟨.year, v⟩).monthIndexFrom x.date =
      monthIndex v x.date.month := by
    simp [Shift.monthIndexFrom, Assignment.overrideShift]
  have hlength : (Assignment.overrideShift x.date.day ⟨.year, v⟩).length =
      (x.date.day - 1) * microsPerDay := by
    simp [Shift.length, Assignment.overrideShift]
  have hcarry : (Assignment.overrideShift x.date.day ⟨.year, v⟩).isCarriable = true :=
    (Shift.isCarriable_overrideShift_iff _ _).mpr fun hcarried => absurd rfl hcarried.1
  rw [overrideOne_eq_ok_iff_of_first hmonth hindex rfl (cleared_day _) hlength]
  constructor
  · rintro ⟨-, -, h⟩
    exact h
  · rintro ⟨hv, h⟩
    exact ⟨fun _ => hv.1, hcarry, hv, h⟩

theorem overrideOne_month_eq_ok_iff {x y : Instant} {v : Nat} :
    x.overrideOne ⟨.month, v⟩ = .ok y ↔
      (y.micros : Int) = countOn
        (Calendar.dayNumber (x.date.year + v / 12) (v % 12 + 1) 1 + (x.date.day - 1))
        x.time.micros := by
  have hmonth : 1 ≤ v % 12 + 1 ∧ v % 12 + 1 ≤ 12 := by omega
  have hindex : (Assignment.overrideShift x.date.day ⟨.month, v⟩).monthIndexFrom x.date =
      monthIndex (x.date.year + v / 12) (v % 12 + 1) := by
    simp [Shift.monthIndexFrom, Assignment.overrideShift, monthIndex]
    omega
  have hlength : (Assignment.overrideShift x.date.day ⟨.month, v⟩).length =
      (x.date.day - 1) * microsPerDay := by
    simp [Shift.length, Assignment.overrideShift]
  rw [overrideOne_eq_ok_iff_of_first hmonth hindex rfl (cleared_month_day _) hlength]
  constructor
  · rintro ⟨-, -, -, h⟩
    exact h
  · intro h
    have hpos := x.date.year_pos
    have hday := x.date.day_pos
    have hle := year_le_of_micros_eq (by omega) h
    have hsmall : (⟨.month, v⟩ : Assignment).size < 1000000000000000000 := by
      rw [show (⟨.month, v⟩ : Assignment).size = v from rfl]
      omega
    refine ⟨?_, isCarriable_of_size hsmall, ⟨by omega, hle⟩, h⟩
    intro hunit
    cases hunit

theorem overrideOne_day_eq_ok_iff {x y : Instant} {v : Nat} :
    x.overrideOne ⟨.day, v⟩ = .ok y ↔
      (y.micros : Int) =
        countOn (Calendar.dayNumber x.date.year x.date.month 1 + (v - 1)) x.time.micros := by
  have hmonth : 1 ≤ x.date.month ∧ x.date.month ≤ 12 := ⟨x.date.month_pos, x.date.month_le⟩
  have hindex : (Assignment.overrideShift x.date.day ⟨.day, v⟩).monthIndexFrom x.date =
      monthIndex x.date.year x.date.month := by
    simp [Shift.monthIndexFrom, Assignment.overrideShift]
  have hlength : (Assignment.overrideShift x.date.day ⟨.day, v⟩).length =
      (v - 1) * microsPerDay := by
    simp [Shift.length, Assignment.overrideShift]
  have hcarry : (Assignment.overrideShift x.date.day ⟨.day, v⟩).isCarriable = true :=
    (Shift.isCarriable_overrideShift_iff _ _).mpr fun hcarried => absurd rfl hcarried.2
  rw [overrideOne_eq_ok_iff_of_first hmonth hindex rfl (cleared_day _) hlength]
  constructor
  · rintro ⟨-, -, -, h⟩
    exact h
  · intro h
    refine ⟨?_, hcarry, ⟨x.date.year_pos, x.date.year_le⟩, h⟩
    intro hunit
    cases hunit

/-- Setting one unit leads to the instant of its count, if there is one. -/
theorem overrideOne_eq_ok_iff {x y : Instant} {a : Assignment} :
    x.overrideOne a = .ok y ↔ a.YearInCalendar ∧ (y.micros : Int) = a.overrideCount x := by
  obtain ⟨unit, v⟩ := a
  cases unit with
  | year =>
      rw [overrideOne_year_eq_ok_iff]
      exact and_congr_left' ⟨fun hv _ => hv, fun hv => hv rfl⟩
  | month =>
      rw [overrideOne_month_eq_ok_iff]
      exact (and_iff_right fun hunit => by cases hunit).symm
  | day =>
      rw [overrideOne_day_eq_ok_iff]
      exact (and_iff_right fun hunit => by cases hunit).symm
  | hour =>
      refine overrideOne_eq_ok_iff_of_clock (by simp [Assignment.IsOfClock])
        (show 0 < microsPerHour by decide) (micros_cleared_hour x.time) ?_
      simp [Shift.length, Assignment.overrideShift, Assignment.size]
  | minute =>
      refine overrideOne_eq_ok_iff_of_clock (by simp [Assignment.IsOfClock])
        (show 0 < microsPerMinute by decide) (micros_cleared_minute x.time) ?_
      simp [Shift.length, Assignment.overrideShift, Assignment.size]
  | second =>
      refine overrideOne_eq_ok_iff_of_clock (by simp [Assignment.IsOfClock])
        (show 0 < microsPerSecond by decide) (micros_cleared_second x.time) ?_
      simp [Shift.length, Assignment.overrideShift, Assignment.size]
  | millisecond =>
      have hlength : (Assignment.overrideShift x.date.day ⟨.millisecond, v⟩).length =
          (⟨.millisecond, v⟩ : Assignment).size * (1 : Nat) := by
        simp [Shift.length, Assignment.overrideShift, Assignment.size]
      rw [overrideOne_eq_ok_iff_of_clock (by simp [Assignment.IsOfClock]) Nat.one_pos
        (micros_cleared_millisecond x.time) hlength]
      simp [Assignment.overrideCount, Assignment.size]

/-! ### A whole expression -/

/-- Setting the units of an expression leads from `x` to `z`, count by count. -/
def OverrideLeads (x : Instant) : Expression → Instant → Prop
  | [], z => z = x
  | a :: e, z =>
    a.YearInCalendar ∧ ∃ y : Instant, (y.micros : Int) = a.overrideCount x ∧ y.OverrideLeads e z

/-- Setting the units of an expression from `x` on never leaves the calendar. -/
def OverrideStays (x : Instant) : Expression → Prop
  | [] => True
  | a :: e =>
    a.YearInCalendar ∧ InCalendar (a.overrideCount x) ∧
      ∀ y : Instant, (y.micros : Int) = a.overrideCount x → y.OverrideStays e

theorem override_cons_eq_ok_iff {x z : Instant} {a : Assignment} {e : Expression} :
    x.override (a :: e) = .ok z ↔ ∃ y, x.overrideOne a = .ok y ∧ y.override e = .ok z :=
  foldlM_cons_eq_ok_iff

theorem override_eq_ok_iff_leads {x z : Instant} {e : Expression} :
    x.override e = .ok z ↔ x.OverrideLeads e z := by
  induction e generalizing x with
  | nil =>
      constructor
      · intro h
        cases h
        rfl
      · intro h
        rw [show z = x from h]
        rfl
  | cons a e ih =>
      rw [override_cons_eq_ok_iff]
      constructor
      · rintro ⟨y, hstep, hrest⟩
        obtain ⟨hyear, hcount⟩ := overrideOne_eq_ok_iff.mp hstep
        exact ⟨hyear, y, hcount, ih.mp hrest⟩
      · rintro ⟨hyear, y, hcount, hrest⟩
        exact ⟨y, overrideOne_eq_ok_iff.mpr ⟨hyear, hcount⟩, ih.mpr hrest⟩

theorem override_succeeds_iff_stays {x : Instant} {e : Expression} :
    (∃ z, x.override e = .ok z) ↔ x.OverrideStays e := by
  induction e generalizing x with
  | nil => exact ⟨fun _ => trivial, fun _ => ⟨x, rfl⟩⟩
  | cons a e ih =>
      constructor
      · rintro ⟨z, hz⟩
        obtain ⟨y, hstep, hrest⟩ := override_cons_eq_ok_iff.mp hz
        obtain ⟨hyear, hcount⟩ := overrideOne_eq_ok_iff.mp hstep
        refine ⟨hyear, inCalendar_iff.mpr ⟨y, hcount⟩, ?_⟩
        intro y' hcount'
        -- A count has one instant, so the run from `y` is the run from `y'`.
        have same : y' = y := micros_injective (by omega)
        exact same ▸ ih.mp ⟨z, hrest⟩
      · rintro ⟨hyear, hin, hrest⟩
        obtain ⟨y, hcount⟩ := inCalendar_iff.mp hin
        obtain ⟨z, hz⟩ := ih.mpr (hrest y hcount)
        have hstep := overrideOne_eq_ok_iff.mpr ⟨hyear, hcount⟩
        exact ⟨z, override_cons_eq_ok_iff.mpr ⟨y, hstep, hz⟩⟩

/-- **An override is lenient carrying assignment.** Its result is the one that the counts of its
units lead to, one after another, and it has a result exactly if none of them leaves the calendar.
-/
theorem override_exact (x : Instant) (e : Expression) :
    (∀ z, x.override e = .ok z ↔ x.OverrideLeads e z) ∧
      ((∃ z, x.override e = .ok z) ↔ x.OverrideStays e) :=
  ⟨fun _ => override_eq_ok_iff_leads, override_succeeds_iff_stays⟩

/-- Month 1 on January 31st is March 3rd. -/
example : ((Date.of? 2011 1 31).map fun d => ((ofDate d).override [⟨.month, 1⟩]).toOption) =
    (Date.of? 2011 3 3).map fun d => some (ofDate d) := by decide +kernel

end Instant
end WikiDates
