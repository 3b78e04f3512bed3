import WikiDates.Calendar.Shift
import WikiDates.Proofs.Calendar.DayNumber

/-!
# Instants and microseconds

The microsecond count is a faithful view of the instants: it tells them apart
(`Instant.micros_injective`), and every count below `microsInCalendar` is the count of an instant
(`Instant.exists_micros`). So adding a length of time is addition of counts, and it fails exactly
when no instant has the sum: `Instant.addMicros?_eq_some_iff`.
-/

namespace WikiDates

open Calendar

/-! ### Times of day -/

namespace TimeOfDay

@[ext] theorem ext {t u : TimeOfDay} (h : t.micros = u.micros) : t = u := by
  cases t
  cases u
  simp_all

/-- A time of day is what its fields say. -/
theorem micros_eq_countMicros (t : TimeOfDay) :
    t.micros = countMicros t.hour t.minute t.second t.microsecond := by
  simp only [countMicros, hour, minute, second, microsecond, microsPerHour, microsPerMinute,
    microsPerSecond]
  omega

@[simp] theorem cleared_nil (t : TimeOfDay) : t.cleared [] = t := by
  ext
  simp [cleared]

@[simp] theorem cleared_day (t : TimeOfDay) : t.cleared [.day] = t := by
  ext
  simp [cleared]

@[simp] theorem cleared_month_day (t : TimeOfDay) : t.cleared [.month, .day] = t := by
  ext
  simp [cleared]

theorem micros_cleared_hour (t : TimeOfDay) :
    (t.cleared [.hour]).micros = countMicros 0 t.minute t.second t.microsecond := by
  have h := t.micros_eq_countMicros
  simp only [cleared, countMicros, List.mem_singleton, reduceCtorEq, if_true, if_false] at h ⊢
  omega

theorem micros_cleared_minute (t : TimeOfDay) :
    (t.cleared [.minute]).micros = countMicros t.hour 0 t.second t.microsecond := by
  have h := t.micros_eq_countMicros
  simp only [cleared, countMicros, List.mem_singleton, reduceCtorEq, if_true, if_false] at h ⊢
  omega

theorem micros_cleared_second (t : TimeOfDay) :
    (t.cleared [.second]).micros = countMicros t.hour t.minute 0 t.microsecond := by
  have h := t.micros_eq_countMicros
  simp only [cleared, countMicros, List.mem_singleton, reduceCtorEq, if_true, if_false] at h ⊢
  omega

theorem micros_cleared_millisecond (t : TimeOfDay) :
    (t.cleared [.millisecond]).micros = countMicros t.hour t.minute t.second 0 := by
  have h := t.micros_eq_countMicros
  simp only [cleared, countMicros, List.mem_singleton, reduceCtorEq, if_true, if_false] at h ⊢
  omega

end TimeOfDay

/-! ### Instants -/

namespace Instant

/-- The microsecond count of a day number and a time of day, whether an instant has it or not. -/
def countOn (day : Int) (time : Nat) : Int := (day - 1) * microsPerDay + time

@[ext] theorem ext {x y : Instant} (date : x.date = y.date) (time : x.time = y.time) : x = y := by
  cases x
  cases y
  simp_all

theorem micros_eq_countOn (x : Instant) :
    (x.micros : Int) = countOn x.date.dayNumber x.time.micros := by
  have hpos := x.date.dayNumber_pos
  simp only [micros, countOn, microsPerDay]
  omega

/-- The count of a day number and a time of day is the count of that day at that time only. -/
theorem micros_eq_countOn_iff {x : Instant} {day : Int} {t : TimeOfDay} :
    (x.micros : Int) = countOn day t.micros ↔ (x.date.dayNumber : Int) = day ∧ x.time = t := by
  have hx := x.time.micros_lt
  have ht := t.micros_lt
  rw [micros_eq_countOn, TimeOfDay.ext_iff]
  simp only [countOn, microsPerDay]
  omega

theorem micros_lt (x : Instant) : x.micros < microsInCalendar := by
  have hpos := x.date.dayNumber_pos
  have hle := x.date.dayNumber_le_lastDay
  have htime := x.time.micros_lt
  simp only [micros, microsInCalendar, microsPerDay, lastDay] at hle ⊢
  omega

theorem micros_div (x : Instant) : x.micros / microsPerDay = x.date.dayNumber - 1 := by
  have htime := x.time.micros_lt
  simp only [micros, microsPerDay]
  omega

theorem micros_mod (x : Instant) : x.micros % microsPerDay = x.time.micros := by
  have htime := x.time.micros_lt
  simp only [micros, microsPerDay]
  omega

theorem micros_injective {x y : Instant} (h : x.micros = y.micros) : x = y := by
  have date : x.date.dayNumber - 1 = y.date.dayNumber - 1 := by
    rw [← micros_div, ← micros_div, h]
  have time : x.time.micros = y.time.micros := by
    rw [← micros_mod, ← micros_mod, h]
  have hx := x.date.dayNumber_pos
  have hy := y.date.dayNumber_pos
  exact Instant.ext (Date.dayNumber_injective (by omega)) (TimeOfDay.ext time)

/-- An instant is read back from its count, and only from that. -/
theorem ofMicros?_eq_some_iff {n : Nat} {x : Instant} : ofMicros? n = some x ↔ x.micros = n := by
  unfold ofMicros?
  constructor
  · intro h
    obtain ⟨date, found, rfl⟩ := Option.map_eq_some_iff.mp h
    have number := Date.ofDayNumber?_eq_some_iff.mp found
    rw [micros, number, Nat.add_sub_cancel, Nat.mul_comm]
    exact Nat.div_add_mod n microsPerDay
  · rintro rfl
    have hpos := x.date.dayNumber_pos
    refine Option.map_eq_some_iff.mpr ⟨x.date, ?_, ?_⟩
    · rw [Date.ofDayNumber?_eq_some_iff, micros_div]
      omega
    · exact Instant.ext rfl (TimeOfDay.ext x.micros_mod)

theorem exists_ofMicros? {n : Nat} (h : n < microsInCalendar) : ∃ x, ofMicros? n = some x := by
  have hday : n / microsPerDay < lastDay := by
    simp only [microsInCalendar, microsPerDay, lastDay] at h ⊢
    omega
  obtain ⟨date, found⟩ := Date.exists_ofDayNumber? (n := n / microsPerDay + 1)
    ⟨Nat.le_add_left _ _, hday⟩
  exact ⟨_, Option.map_eq_some_iff.mpr ⟨date, found, rfl⟩⟩

/-- Every count below `microsInCalendar` is the count of an instant. -/
theorem exists_micros {n : Nat} (h : n < microsInCalendar) : ∃ x : Instant, x.micros = n := by
  obtain ⟨x, found⟩ := exists_ofMicros? h
  exact ⟨x, ofMicros?_eq_some_iff.mp found⟩

/-- Adding a length of time leads to the instant with the sum as its count, if there is one. -/
theorem addMicros?_eq_some_iff {x y : Instant} {length : Int} :
    x.addMicros? length = some y ↔ (y.micros : Int) = x.micros + length := by
  unfold addMicros?
  dsimp only
  constructor
  · intro h
    split at h
    · have := ofMicros?_eq_some_iff.mp h
      omega
    · cases h
  · intro h
    have hlt := y.micros_lt
    rw [if_pos (by omega), ofMicros?_eq_some_iff]
    omega

end Instant
end WikiDates
