import WikiDates.Proofs.Calendar.Linear
import WikiDates.Proofs.Results

/-!
# What a shift does

`Shift.addTo_eq_ok_iff` is all that later proofs need of a shift: it lands in a month of the
calendar, and from there its length of time leads to another instant. The checks of the years and
of the days, which decide how a failure is reported, never refuse a shift that leads to an instant.
-/

namespace WikiDates

open Calendar Results

namespace Calendar

theorem checkYear_eq_ok_iff {n : Int} : checkYear n = .ok () ↔ 1 ≤ n ∧ n ≤ 9999 := by
  unfold checkYear firstYear lastYear
  constructor
  · intro h
    split at h
    · cases h
    split at h
    · cases h
    split at h
    · cases h
    split at h
    · cases h
    · omega
  · intro h
    rw [if_neg (by omega), if_neg (by omega), if_neg (by omega), if_neg (by omega)]

theorem checkDays_eq_ok {n : Int} (h : n.natAbs ≤ 999999999) : checkDays n = .ok () := by
  unfold checkDays
  rw [if_neg (by omega), if_neg (by omega)]

end Calendar

/-! ### Landing in a month -/

namespace Date

theorem inMonth?_eq_some_iff {index : Int} {day : Nat} {h : 1 ≤ day} {d : Date} :
    inMonth? index day h = some d ↔
      (12 ≤ index ∧ index < 120000) ∧ (d.year : Int) = index / 12 ∧
        (d.month : Int) = index % 12 + 1 ∧ d.day = min day (daysInMonth d.year d.month) := by
  unfold inMonth?
  constructor
  · intro found
    split at found
    · next inRange =>
        cases found
        exact ⟨inRange, by dsimp only; omega, by dsimp only; omega, rfl⟩
    · cases found
  · rintro ⟨inRange, year, month, hday⟩
    rw [dif_pos inRange]
    have hy : (index / 12).toNat = d.year := by omega
    have hm : (index % 12).toNat + 1 = d.month := by omega
    refine congrArg some (Date.ext hy hm ?_)
    rw [hday, ← hy, ← hm]

/-- In a month of a year, the day is the given one or the last. -/
theorem inMonth?_monthIndex {year month day : Nat} (hmonth : 1 ≤ month ∧ month ≤ 12)
    (h : 1 ≤ day) :
    inMonth? (monthIndex year month) day h = of? year month (min day (daysInMonth year month)) := by
  ext d
  simp only [monthIndex]
  rw [inMonth?_eq_some_iff, of?_eq_some_iff]
  constructor
  · rintro ⟨inRange, hy, hm, hd⟩
    have year_eq : d.year = year := by omega
    have month_eq : d.month = month := by omega
    exact ⟨year_eq, month_eq, by rw [hd, year_eq, month_eq]⟩
  · rintro ⟨rfl, rfl, hd⟩
    have hpos := d.year_pos
    have hle := d.year_le
    exact ⟨by omega, by omega, by omega, hd⟩

end Date

/-! ### Shifts -/

namespace Shift

/-- The date that a shift lands on before its length of time is added. -/
def landingDate? (s : Shift) (d : Date) : Option Date :=
  Date.inMonth? (s.monthIndexFrom d) (s.dayFrom d) (s.dayFrom_pos d)

/-- Where a shift lands before its length of time is added. -/
def landing? (s : Shift) (x : Instant) : Option Instant :=
  (s.landingDate? x.date).map fun d => ⟨d, x.time.cleared s.reset⟩

/-- The length of time between two instants is not too long to be added. -/
theorem checkDays_of_micros {x y : Instant} {length : Int}
    (h : (y.micros : Int) = x.micros + length) :
    checkDays (length / microsPerDay) = .ok () := by
  have hx := x.micros_lt
  have hy := y.micros_lt
  apply checkDays_eq_ok
  simp only [Instant.microsInCalendar, microsPerDay, lastDay] at hx hy ⊢
  omega

/-- A shift leads from where it lands as far as it is long. -/
theorem addTo_eq_ok_iff {s : Shift} {x y : Instant} :
    s.addTo x = .ok y ↔
      ∃ z, s.landing? x = some z ∧ (y.micros : Int) = z.micros + s.length := by
  unfold addTo landing? landingDate?
  dsimp only
  rw [bind_eq_ok_iff]
  cases hd : Date.inMonth? (s.monthIndexFrom x.date) (s.dayFrom x.date) (s.dayFrom_pos x.date) with
  | none =>
      constructor
      · rintro ⟨_, -, h⟩
        cases h
      · rintro ⟨z, h, -⟩
        cases h
  | some d =>
      have hyear : checkYear (s.monthIndexFrom x.date / 12) = .ok () := by
        have inRange := (Date.inMonth?_eq_some_iff.mp hd).1
        rw [checkYear_eq_ok_iff]
        omega
      dsimp only
      constructor
      · rintro ⟨_, -, h⟩
        obtain ⟨_, -, h⟩ := bind_eq_ok_iff.mp h
        refine ⟨_, rfl, ?_⟩
        split at h
        · cases h
        · next y' hy =>
            cases h
            exact Instant.addMicros?_eq_some_iff.mp hy
      · rintro ⟨z, hz, h⟩
        cases hz
        refine ⟨(), hyear, bind_eq_ok_iff.mpr ⟨(), checkDays_of_micros h, ?_⟩⟩
        rw [Instant.addMicros?_eq_some_iff.mpr h]
        rfl

/-- What a shift leads to, told by the month that it lands in. -/
theorem addTo_eq_ok_iff_of_index {s : Shift} {x y : Instant} {year month : Nat}
    (hmonth : 1 ≤ month ∧ month ≤ 12) (hindex : s.monthIndexFrom x.date = monthIndex year month) :
    s.addTo x = .ok y ↔ (1 ≤ year ∧ year ≤ 9999) ∧
      (y.micros : Int) = Instant.countOn
        (Calendar.dayNumber year month (min (s.dayFrom x.date) (daysInMonth year month)))
        (x.time.cleared s.reset).micros + s.length := by
  have hpos := s.dayFrom_pos x.date
  have hlong := daysInMonth_ge year month
  rw [addTo_eq_ok_iff]
  unfold landing? landingDate?
  simp only [hindex, Date.inMonth?_monthIndex hmonth]
  constructor
  · rintro ⟨z, hz, h⟩
    obtain ⟨d, hd, rfl⟩ := Option.map_eq_some_iff.mp hz
    obtain ⟨hy, hm, hday⟩ := Date.of?_eq_some_iff.mp hd
    rw [Instant.micros_eq_countOn ⟨d, _⟩, Date.dayNumber, hy, hm, hday] at h
    exact ⟨⟨hy ▸ d.year_pos, hy ▸ d.year_le⟩, h⟩
  · rintro ⟨hyear, h⟩
    let d : Date := ⟨year, month, min (s.dayFrom x.date) (daysInMonth year month), hyear.1, hyear.2,
      hmonth.1, hmonth.2, by omega, Nat.min_le_right _ _⟩
    have hd : Date.of? year month (min (s.dayFrom x.date) (daysInMonth year month)) = some d :=
      Date.of?_eq_some_iff.mpr ⟨rfl, rfl, rfl⟩
    refine ⟨_, Option.map_eq_some_iff.mpr ⟨d, hd, rfl⟩, ?_⟩
    rw [Instant.micros_eq_countOn ⟨d, _⟩]
    exact h

/-- A shift that stays in its month leads to another time by its length alone. -/
theorem addTo_eq_ok_iff_of_same {s : Shift} {x y : Instant}
    (hindex : s.monthIndexFrom x.date = monthIndex x.date.year x.date.month)
    (hday : s.dayFrom x.date = x.date.day) :
    s.addTo x = .ok y ↔
      (y.micros : Int) =
        Instant.countOn x.date.dayNumber (x.time.cleared s.reset).micros + s.length := by
  have hmin : min (s.dayFrom x.date) (daysInMonth x.date.year x.date.month) = x.date.day := by
    rw [hday, Nat.min_eq_left x.date.day_le]
  rw [addTo_eq_ok_iff_of_index ⟨x.date.month_pos, x.date.month_le⟩ hindex, hmin, Date.dayNumber]
  exact and_iff_right ⟨x.date.year_pos, x.date.year_le⟩

end Shift
end WikiDates
