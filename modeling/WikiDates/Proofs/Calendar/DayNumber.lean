import WikiDates.Calendar.Date

/-!
# Dates and day numbers

The day number is a faithful view of the calendar: `Date.ofDayNumber?_eq_some_iff` says that it is
read back exactly, and `Date.exists_dayNumber` that every number from 1 to `lastDay` is the number
of a date.

The year of a day is guessed by the mean length of a year. `mean_le_daysBeforeYear` and
`daysBeforeYear_le_mean` say how far the true count of days strays from the mean, which is less
than two days; so the guess is wrong by at most one year.
-/

namespace WikiDates
namespace Calendar

/-! ### Years -/

/-- A year more is a multiple of `k` more exactly if it is one. -/
theorem div_eq_pred_div_add (k : Nat) {year : Nat} (h : 1 ≤ year) :
    year / k = (year - 1) / k + if year % k = 0 then 1 else 0 := by
  obtain ⟨y, rfl⟩ : ∃ y, year = y + 1 := ⟨year - 1, by omega⟩
  rw [Nat.succ_div]
  simp [Nat.dvd_iff_mod_eq_zero]

theorem daysBeforeYear_succ {year : Nat} (h : 1 ≤ year) :
    daysBeforeYear (year + 1) = daysBeforeYear year + daysInYear year := by
  have le100 : (year - 1) / 100 ≤ (year - 1) / 4 := by omega
  have r100 : year % 100 = 0 → year % 4 = 0 := by omega
  have r400 : year % 400 = 0 → year % 100 = 0 := by omega
  unfold daysBeforeYear daysInYear isLeap
  rw [Nat.add_sub_cancel, div_eq_pred_div_add 4 h, div_eq_pred_div_add 100 h,
    div_eq_pred_div_add 400 h]
  generalize (year - 1) / 4 = a, (year - 1) / 100 = b, (year - 1) / 400 = c at le100
  by_cases h4 : year % 4 = 0 <;> by_cases h100 : year % 100 = 0 <;>
    by_cases h400 : year % 400 = 0 <;> simp_all <;> omega

theorem daysBeforeYear_mono {y z : Nat} (h : y ≤ z) : daysBeforeYear y ≤ daysBeforeYear z := by
  induction h with
  | refl => exact Nat.le_refl _
  | @step z _ ih =>
      apply Nat.le_trans ih
      cases z with
      | zero => exact Nat.le_refl _
      | succ z =>
          rw [daysBeforeYear_succ (Nat.le_add_left 1 z)]
          exact Nat.le_add_right _ _

theorem mean_le_daysBeforeYear (year : Nat) :
    146097 * year ≤ 400 * daysBeforeYear year + 146800 := by
  unfold daysBeforeYear
  have h4 : year - 1 ≤ 4 * ((year - 1) / 4) + 3 := by omega
  have h100 : 100 * ((year - 1) / 100) ≤ year - 1 := by omega
  have h400 : year - 1 ≤ 400 * ((year - 1) / 400) + 399 := by omega
  generalize (year - 1) / 4 = a, (year - 1) / 100 = b, (year - 1) / 400 = c at *
  omega

theorem daysBeforeYear_le_mean {year : Nat} (h : 1 ≤ year) :
    400 * daysBeforeYear year + 145700 ≤ 146097 * year := by
  unfold daysBeforeYear
  have h4 : 4 * ((year - 1) / 4) ≤ year - 1 := by omega
  have h100 : year - 1 ≤ 100 * ((year - 1) / 100) + 99 := by omega
  have h400 : 400 * ((year - 1) / 400) ≤ year - 1 := by omega
  generalize (year - 1) / 4 = a, (year - 1) / 100 = b, (year - 1) / 400 = c at *
  omega

/-- Day `n` lies after all earlier years and not after the year of its own. -/
theorem yearOfDay_spec {n : Nat} (h : 1 ≤ n) :
    1 ≤ yearOfDay n ∧ daysBeforeYear (yearOfDay n) < n ∧
      n ≤ daysBeforeYear (yearOfDay n + 1) := by
  unfold yearOfDay
  dsimp only
  generalize hg : (n - 1) * 400 / 146097 + 1 = guess
  have low := mean_le_daysBeforeYear (guess + 1 + 1)
  have high : 1 ≤ guess - 1 → _ := daysBeforeYear_le_mean
  split
  · -- No day lies before the first year, so the guess is not the first year here.
    have hone : guess ≠ 1 := by
      rintro rfl
      rename_i hn
      simp [daysBeforeYear] at hn
      omega
    refine ⟨by omega, by omega, ?_⟩
    rwa [show guess - 1 + 1 = guess by omega]
  · split
    · exact ⟨by omega, by assumption, by omega⟩
    · exact ⟨by omega, by omega, by omega⟩

/-- A year is pinned down by a day in it. -/
theorem yearOfDay_eq {n year : Nat} (h : 1 ≤ n) (after : daysBeforeYear year < n)
    (upTo : n ≤ daysBeforeYear (year + 1)) : yearOfDay n = year := by
  obtain ⟨-, hlt, hle⟩ := yearOfDay_spec h
  rcases Nat.lt_trichotomy (yearOfDay n) year with hless | heq | hmore
  · have := daysBeforeYear_mono (show yearOfDay n + 1 ≤ year from hless)
    omega
  · exact heq
  · have := daysBeforeYear_mono (show year + 1 ≤ yearOfDay n from hmore)
    omega

/-! ### Months -/

theorem daysInMonth_le (year month : Nat) : daysInMonth year month ≤ 31 := by
  unfold daysInMonth
  split
  · split <;> decide
  all_goals decide

theorem daysBeforeMonth_succ (year : Nat) {month : Nat} (h : 1 ≤ month) :
    daysBeforeMonth year (month + 1) = daysBeforeMonth year month + daysInMonth year month := by
  obtain ⟨m, rfl⟩ : ∃ m, month = m + 1 := ⟨month - 1, by omega⟩
  rfl

theorem daysBeforeMonth_mono (year : Nat) {m k : Nat} (h : m ≤ k) :
    daysBeforeMonth year m ≤ daysBeforeMonth year k := by
  induction h with
  | refl => exact Nat.le_refl _
  | @step k _ ih =>
      apply Nat.le_trans ih
      cases k with
      | zero => exact Nat.le_refl _
      | succ k => exact Nat.le_add_right _ _

/-- The months of a year make up the year. -/
theorem daysBeforeMonth_thirteen (year : Nat) : daysBeforeMonth year 13 = daysInYear year := by
  simp only [daysBeforeMonth, daysInMonth, daysInYear]
  split <;> rfl

theorem daysBeforeMonth_add_day_le {year month day : Nat} (hm : 1 ≤ month ∧ month ≤ 12)
    (hd : day ≤ daysInMonth year month) : daysBeforeMonth year month + day ≤ daysInYear year := by
  have := daysBeforeMonth_succ year hm.1
  have := daysBeforeMonth_mono year (show month + 1 ≤ 13 by omega)
  rw [daysBeforeMonth_thirteen] at this
  omega

/-- Walking through months keeps the day of the year, and ends in a month that has the day. -/
theorem monthAndDay_spec {year months month day : Nat} (hm : 1 ≤ month) (hd : 1 ≤ day)
    (h : daysBeforeMonth year month + day ≤ daysBeforeMonth year (month + months + 1)) :
    ∃ m d, monthAndDay year months month day = (m, d) ∧ month ≤ m ∧ m ≤ month + months ∧
      1 ≤ d ∧ d ≤ daysInMonth year m ∧
      daysBeforeMonth year m + d = daysBeforeMonth year month + day := by
  induction months generalizing month day with
  | zero =>
      have next := daysBeforeMonth_succ year hm
      exact ⟨month, day, rfl, Nat.le_refl _, Nat.le_refl _, hd,
        by rw [Nat.add_zero] at h; omega, rfl⟩
  | succ months ih =>
      have next := daysBeforeMonth_succ year hm
      rw [monthAndDay]
      split
      · next hday => exact ⟨month, day, rfl, Nat.le_refl _, Nat.le_add_right _ _, hd, hday, rfl⟩
      · have fits : daysBeforeMonth year (month + 1) + (day - daysInMonth year month) ≤
            daysBeforeMonth year (month + 1 + months + 1) := by
          rw [show month + 1 + months + 1 = month + (months + 1) + 1 by omega]
          omega
        obtain ⟨m, d, found, h1, h2, h3, h4, h5⟩ := ih (by omega) (by omega) fits
        exact ⟨m, d, found, by omega, by omega, h3, h4, by omega⟩

/-- The month and day on day `day` of a year. -/
theorem monthAndDay_of_year {year day : Nat} (hd : 1 ≤ day) (h : day ≤ daysInYear year) :
    ∃ m d, monthAndDay year 11 1 day = (m, d) ∧ (1 ≤ m ∧ m ≤ 12) ∧
      (1 ≤ d ∧ d ≤ daysInMonth year m) ∧ daysBeforeMonth year m + d = day := by
  have inYear := daysBeforeMonth_thirteen year
  have fits : daysBeforeMonth year 1 + day ≤ daysBeforeMonth year (1 + 11 + 1) := by
    rw [inYear]
    simpa [daysBeforeMonth] using h
  obtain ⟨m, d, found, h1, h2, h3, h4, h5⟩ := monthAndDay_spec (Nat.le_refl 1) hd fits
  exact ⟨m, d, found, ⟨h1, h2⟩, ⟨h3, h4⟩, by simpa [daysBeforeMonth] using h5⟩

/-- A month is pinned down by a day in it. -/
theorem month_eq_of_day_eq {year m k d e : Nat} (hm : 1 ≤ m) (hk : 1 ≤ k)
    (hd : 1 ≤ d ∧ d ≤ daysInMonth year m) (he : 1 ≤ e ∧ e ≤ daysInMonth year k)
    (h : daysBeforeMonth year m + d = daysBeforeMonth year k + e) : m = k := by
  have nextM := daysBeforeMonth_succ year hm
  have nextK := daysBeforeMonth_succ year hk
  rcases Nat.lt_trichotomy m k with hless | heq | hmore
  · have := daysBeforeMonth_mono year (show m + 1 ≤ k from hless)
    omega
  · exact heq
  · have := daysBeforeMonth_mono year (show k + 1 ≤ m from hmore)
    omega

end Calendar

/-! ### Dates -/

namespace Date

open Calendar

@[ext] theorem ext {d e : Date} (year : d.year = e.year) (month : d.month = e.month)
    (day : d.day = e.day) : d = e := by
  cases d
  cases e
  simp_all

theorem of?_eq_some_iff {year month day : Nat} {d : Date} :
    of? year month day = some d ↔ d.year = year ∧ d.month = month ∧ d.day = day := by
  unfold of?
  constructor
  · intro h
    split at h
    · cases h
      exact ⟨rfl, rfl, rfl⟩
    · cases h
  · rintro ⟨rfl, rfl, rfl⟩
    rw [dif_pos ⟨⟨d.year_pos, d.year_le⟩, ⟨d.month_pos, d.month_le⟩, d.day_pos, d.day_le⟩]

theorem dayOfYear_le (d : Date) : d.dayOfYear ≤ daysInYear d.year :=
  daysBeforeMonth_add_day_le ⟨d.month_pos, d.month_le⟩ d.day_le

theorem dayNumber_eq (d : Date) : d.dayNumber = daysBeforeYear d.year + d.dayOfYear := by
  simp only [dayNumber, Calendar.dayNumber, dayOfYear]
  omega

theorem dayNumber_pos (d : Date) : 1 ≤ d.dayNumber := by
  have := d.day_pos
  simp only [dayNumber, Calendar.dayNumber]
  omega

theorem dayNumber_le_lastDay (d : Date) : d.dayNumber ≤ lastDay := by
  have inYear := d.dayOfYear_le
  have next := daysBeforeYear_succ d.year_pos
  have mono := daysBeforeYear_mono (show d.year + 1 ≤ 10000 by have := d.year_le; omega)
  have last : daysBeforeYear 10000 = lastDay := by decide
  rw [dayNumber_eq]
  omega

/-- A day number is read as a date of its year. -/
theorem ofDayNumber?_eq {n : Nat} (h : 1 ≤ n) :
    ∃ m d, ofDayNumber? n = of? (yearOfDay n) m d ∧ (1 ≤ m ∧ m ≤ 12) ∧
      (1 ≤ d ∧ d ≤ daysInMonth (yearOfDay n) m) ∧ Calendar.dayNumber (yearOfDay n) m d = n := by
  obtain ⟨year_pos, after, upTo⟩ := yearOfDay_spec h
  have next := daysBeforeYear_succ year_pos
  have inYear : n - daysBeforeYear (yearOfDay n) ≤ daysInYear (yearOfDay n) := by omega
  obtain ⟨m, d, found, hm, hd, same⟩ := monthAndDay_of_year (by omega) inYear
  refine ⟨m, d, ?_, hm, hd, ?_⟩
  · rw [ofDayNumber?, found]
  · rw [Calendar.dayNumber]
    omega

theorem dayNumber_of_ofDayNumber? {n : Nat} {d : Date} (h : ofDayNumber? n = some d) :
    d.dayNumber = n := by
  rcases Nat.eq_zero_or_pos n with rfl | hpos
  · have year := (of?_eq_some_iff.mp h).1
    exact absurd (year ▸ d.year_pos) (by decide)
  · obtain ⟨m, day, found, -, -, number⟩ := ofDayNumber?_eq hpos
    obtain ⟨hy, hm, hd⟩ := of?_eq_some_iff.mp (found ▸ h)
    rw [dayNumber, hy, hm, hd, number]

theorem exists_ofDayNumber? {n : Nat} (h : 1 ≤ n ∧ n ≤ lastDay) :
    ∃ d, ofDayNumber? n = some d := by
  obtain ⟨year_pos, after, -⟩ := yearOfDay_spec h.1
  have year_le : ¬ 10000 ≤ yearOfDay n := by
    intro hbig
    have mono := daysBeforeYear_mono hbig
    have last : daysBeforeYear 10000 = lastDay := by decide
    omega
  obtain ⟨m, day, found, hm, hd, -⟩ := ofDayNumber?_eq h.1
  rw [found]
  exact ⟨⟨_, m, day, year_pos, by omega, hm.1, hm.2, hd.1, hd.2⟩,
    of?_eq_some_iff.mpr ⟨rfl, rfl, rfl⟩⟩

theorem yearOfDay_dayNumber (d : Date) : yearOfDay d.dayNumber = d.year := by
  have inYear := d.dayOfYear_le
  have hpos : 1 ≤ d.dayOfYear := Nat.le_trans d.day_pos (Nat.le_add_left _ _)
  apply yearOfDay_eq d.dayNumber_pos
  · rw [dayNumber_eq]
    omega
  · rw [daysBeforeYear_succ d.year_pos, dayNumber_eq]
    omega

theorem dayNumber_injective {d e : Date} (h : d.dayNumber = e.dayNumber) : d = e := by
  have year : d.year = e.year := by
    rw [← d.yearOfDay_dayNumber, ← e.yearOfDay_dayNumber, h]
  have sameDay : daysBeforeMonth d.year d.month + d.day =
      daysBeforeMonth d.year e.month + e.day := by
    rw [dayNumber_eq, dayNumber_eq, year] at h
    have := Nat.add_left_cancel h
    simpa only [dayOfYear, year] using this
  have month : d.month = e.month :=
    month_eq_of_day_eq d.month_pos e.month_pos ⟨d.day_pos, d.day_le⟩
      ⟨e.day_pos, year ▸ e.day_le⟩ sameDay
  rw [month] at sameDay
  exact Date.ext year month (Nat.add_left_cancel sameDay)

/-- A date is read back from its number, and only from that. -/
theorem ofDayNumber?_eq_some_iff {n : Nat} {d : Date} :
    ofDayNumber? n = some d ↔ d.dayNumber = n := by
  constructor
  · exact dayNumber_of_ofDayNumber?
  · rintro rfl
    obtain ⟨e, he⟩ := exists_ofDayNumber? ⟨d.dayNumber_pos, d.dayNumber_le_lastDay⟩
    rw [he, dayNumber_injective (dayNumber_of_ofDayNumber? he)]

/-- Every number from 1 to `lastDay` is the number of a date. -/
theorem exists_dayNumber {n : Nat} (h : 1 ≤ n ∧ n ≤ lastDay) : ∃ d : Date, d.dayNumber = n := by
  obtain ⟨d, hd⟩ := exists_ofDayNumber? h
  exact ⟨d, dayNumber_of_ofDayNumber? hd⟩

end Date
end WikiDates
