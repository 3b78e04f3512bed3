import WikiDates.Proofs.Calendar.Order
import WikiDates.Proofs.FixedLengths
import WikiDates.Proofs.Months

/-!
# Offsets and the order of days

An offset of years, months and days never puts a later day before an earlier one. A month that is too
short lets several days fall together, but it does so at its end, where nothing is left to be
overtaken. Nor is there a gap between days that the offset can be applied to.

`Instant.KeepsOrder` says so of one amount, for counted months (`Instant.keepsOrder_of_months`) and for
counted days (`Instant.keepsOrder_of_day`). `Instant.exists_offset_between` says it of an expression,
by induction on it: what lies between two starts still lies between them after every amount.
-/

namespace WikiDates

open Calendar

namespace Date

/-- A date is earlier than another if its month is earlier, or the same with an earlier day. -/
theorem lt_iff_monthIndex {d e : Date} :
    d < e ↔ d.monthIndex < e.monthIndex ∨ d.monthIndex = e.monthIndex ∧ d.day < e.day := by
  have hd := And.intro d.month_pos d.month_le
  have he := And.intro e.month_pos e.month_le
  rw [lt_iff]
  unfold monthIndex Calendar.monthIndex
  omega

theorem le_iff_monthIndex {d e : Date} :
    d ≤ e ↔ d.monthIndex < e.monthIndex ∨ d.monthIndex = e.monthIndex ∧ d.day ≤ e.day := by
  rw [← not_lt, lt_iff_monthIndex]
  omega

theorem monthIndex_mono {d e : Date} (h : d ≤ e) : d.monthIndex ≤ e.monthIndex := by
  rcases le_iff_monthIndex.mp h with hindex | ⟨hindex, -⟩
  · exact Nat.le_of_lt hindex
  · exact Nat.le_of_eq hindex

end Date

namespace Instant

variable {sign : Int} {a : Assignment} {e : Expression} {w x y z x' z' : Instant}

/-! ### One amount -/

/-- Adding the amount keeps the time of day and the order of days, and wherever it can be added to two
days it can be added to the days between them. -/
structure KeepsOrder (sign : Int) (a : Assignment) : Prop where
  time_eq : ∀ {x y : Instant}, x.shift (a.offsetShift sign) = .ok y → y.time = x.time
  date_le : ∀ {x z x' z' : Instant}, x.date ≤ z.date → x.shift (a.offsetShift sign) = .ok x' →
    z.shift (a.offsetShift sign) = .ok z' → x'.date ≤ z'.date
  exists_between : ∀ {x w z x' z' : Instant}, x.date ≤ w.date → w.date ≤ z.date →
    x.shift (a.offsetShift sign) = .ok x' → z.shift (a.offsetShift sign) = .ok z' →
      ∃ w', w.shift (a.offsetShift sign) = .ok w'

/-- Years and months keep the order of days. -/
theorem keepsOrder_of_months (h : a.IsOfMonths) : KeepsOrder sign a where
  time_eq := fun hstep => ((shift_eq_ok_iff_of_months h).mp hstep).2.2
  date_le := by
    intro x z x' z' hxz hx hz
    obtain ⟨hxindex, hxday, -⟩ := (shift_eq_ok_iff_of_months h).mp hx
    obtain ⟨hzindex, hzday, -⟩ := (shift_eq_ok_iff_of_months h).mp hz
    rw [Date.le_iff_monthIndex]
    rcases Date.le_iff_monthIndex.mp hxz with hindex | ⟨hindex, hday⟩
    · left
      omega
    · right
      -- Both days are cut down to the length of the same month.
      have hsame : x'.date.monthIndex = z'.date.monthIndex := by omega
      rw [hsame] at hxday
      exact ⟨hsame, by omega⟩
  exists_between := by
    intro x w z x' z' hxw hwz hx hz
    obtain ⟨hlow, -⟩ := isMonth_iff.mp ((exists_shift_iff_of_months h).mp ⟨x', hx⟩)
    obtain ⟨-, hhigh⟩ := isMonth_iff.mp ((exists_shift_iff_of_months h).mp ⟨z', hz⟩)
    have hxw' := Date.monthIndex_mono hxw
    have hwz' := Date.monthIndex_mono hwz
    exact (exists_shift_iff_of_months h).mpr (isMonth_iff.mpr ⟨by omega, by omega⟩)

/-- Adding days moves the day number and keeps the time of day. -/
theorem shift_eq_ok_iff_of_day (h : a.unit = .day) :
    x.shift (a.offsetShift sign) = .ok y ↔
      (y.date.dayNumber : Int) = x.date.dayNumber + sign * a.magnitude ∧ y.time = x.time := by
  have hfixed : a.IsOfFixedLength := by simp [Assignment.IsOfFixedLength, h]
  have hsum : (x.micros : Int) + sign * a.duration =
      countOn (x.date.dayNumber + sign * a.magnitude) x.time.micros := by
    simp only [micros_eq_countOn, countOn, Assignment.duration, h, TimeUnit.micros, Int.natCast_mul,
      ← Int.mul_assoc, Int.sub_mul, Int.add_mul]
    omega
  rw [shift_eq_ok_iff_of_fixed hfixed, hsum, micros_eq_countOn_iff]

/-- Days keep the order of days. -/
theorem keepsOrder_of_day (h : a.unit = .day) : KeepsOrder sign a where
  time_eq := fun hstep => ((shift_eq_ok_iff_of_day h).mp hstep).2
  date_le := by
    intro x z x' z' hxz hx hz
    have hxnumber := ((shift_eq_ok_iff_of_day h).mp hx).1
    have hznumber := ((shift_eq_ok_iff_of_day h).mp hz).1
    rw [Date.le_iff_dayNumber] at hxz ⊢
    omega
  exists_between := by
    intro x w z x' z' hxw hwz hx hz
    have hxnumber := ((shift_eq_ok_iff_of_day h).mp hx).1
    have hznumber := ((shift_eq_ok_iff_of_day h).mp hz).1
    have hlow := x'.date.dayNumber_pos
    have hhigh := z'.date.dayNumber_le_lastDay
    rw [Date.le_iff_dayNumber] at hxw hwz
    obtain ⟨d, hd⟩ := Date.exists_dayNumber
      (n := ((w.date.dayNumber : Int) + sign * a.magnitude).toNat) ⟨by omega, by omega⟩
    exact ⟨⟨d, w.time⟩, (shift_eq_ok_iff_of_day h).mpr ⟨by dsimp only; omega, rfl⟩⟩

theorem keepsOrder_of_date (h : a.unit = .year ∨ a.unit = .month ∨ a.unit = .day) :
    KeepsOrder sign a := by
  rcases h with hyear | hmonth | hday
  · exact keepsOrder_of_months (.inl hyear)
  · exact keepsOrder_of_months (.inr hmonth)
  · exact keepsOrder_of_day hday

/-! ### A whole expression -/

/-- What lies between two starts is led to between where they are led to. -/
theorem exists_offset_between (h : ∀ a ∈ e, KeepsOrder sign a) (hxw : x.date ≤ w.date)
    (hwz : w.date ≤ z.date) (hx : x.offset e sign = .ok x') (hz : z.offset e sign = .ok z') :
    ∃ w', w.offset e sign = .ok w' ∧ x'.date ≤ w'.date ∧ w'.date ≤ z'.date ∧
      w'.time = w.time := by
  induction e generalizing x w z with
  | nil =>
      cases hx
      cases hz
      exact ⟨w, rfl, hxw, hwz, rfl⟩
  | cons a e ih =>
      obtain ⟨ha, he⟩ := List.forall_mem_cons.mp h
      obtain ⟨x₁, hxstep, hxrest⟩ := offset_cons_eq_ok_iff.mp hx
      obtain ⟨z₁, hzstep, hzrest⟩ := offset_cons_eq_ok_iff.mp hz
      obtain ⟨w₁, hwstep⟩ := ha.exists_between hxw hwz hxstep hzstep
      obtain ⟨w', hwrest, hlow, hhigh, htime⟩ := ih he (ha.date_le hxw hxstep hwstep)
        (ha.date_le hwz hwstep hzstep) hxrest hzrest
      exact ⟨w', offset_cons_eq_ok_iff.mpr ⟨w₁, hwstep, hwrest⟩, hlow, hhigh,
        htime.trans (ha.time_eq hwstep)⟩

/-- **Offsets of years, months and days keep days in order.** If such an offset can be applied to two
instants, then a day that is not later stays so, and both keep their time of day. The offset can then
be applied to every instant on a day between theirs, and leads to a day between the two results. -/
theorem offset_keeps_days_in_order (x z x' z' : Instant) (e : Expression) (sign : Int)
    (h : ∀ a ∈ e, a.unit = .year ∨ a.unit = .month ∨ a.unit = .day) (hxz : x.date ≤ z.date)
    (hx : x.offset e sign = .ok x') (hz : z.offset e sign = .ok z') :
    x'.date ≤ z'.date ∧ x'.time = x.time ∧ z'.time = z.time ∧
      ∀ w : Instant, x.date ≤ w.date → w.date ≤ z.date →
        ∃ w', w.offset e sign = .ok w' ∧ x'.date ≤ w'.date ∧ w'.date ≤ z'.date ∧
          w'.time = w.time := by
  have hkeeps : ∀ a ∈ e, KeepsOrder sign a := fun a ha => keepsOrder_of_date (h a ha)
  have hbetween : ∀ w : Instant, x.date ≤ w.date → w.date ≤ z.date →
      ∃ w', w.offset e sign = .ok w' ∧ x'.date ≤ w'.date ∧ w'.date ≤ z'.date ∧
        w'.time = w.time :=
    fun w hxw hwz => exists_offset_between hkeeps hxw hwz hx hz
  -- The two starts lie between themselves.
  obtain ⟨x'', hx'', -, hle, hxtime⟩ := hbetween x le_rfl hxz
  obtain ⟨z'', hz'', -, -, hztime⟩ := hbetween z hxz le_rfl
  obtain rfl : x' = x'' := Except.ok.inj (hx.symm.trans hx'')
  obtain rfl : z' = z'' := Except.ok.inj (hz.symm.trans hz'')
  exact ⟨hle, hxtime, hztime, hbetween⟩

/-- A month and a day on from the last days of January 2012: January 30th ends between January 28th and
January 31st, on the same day as the latter. -/
theorem january_30th_stays_between :
    let x := ofDate ⟨2012, 1, 28, by decide, by decide, by decide, by decide, by decide, by decide⟩
    let w := ofDate ⟨2012, 1, 30, by decide, by decide, by decide, by decide, by decide, by decide⟩
    let z := ofDate ⟨2012, 1, 31, by decide, by decide, by decide, by decide, by decide, by decide⟩
    let x' := ofDate ⟨2012, 2, 29, by decide, by decide, by decide, by decide, by decide, by decide⟩
    let z' := ofDate ⟨2012, 3, 1, by decide, by decide, by decide, by decide, by decide, by decide⟩
    let e : Expression := [⟨.month, 1⟩, ⟨.day, 1⟩]
    (∀ a ∈ e, a.unit = .year ∨ a.unit = .month ∨ a.unit = .day) ∧ x.date ≤ z.date ∧
      x.offset e 1 = .ok x' ∧ z.offset e 1 = .ok z' ∧ x.date ≤ w.date ∧ w.date ≤ z.date ∧
        ∃ w', w.offset e 1 = .ok w' ∧ x'.date ≤ w'.date ∧ w'.date ≤ z'.date ∧
          w'.time = w.time := by
  intro x w z x' z' e
  have h : ∀ a ∈ e, a.unit = .year ∨ a.unit = .month ∨ a.unit = .day := by decide
  have hx : x.offset e 1 = .ok x' := by decide +kernel
  have hz : z.offset e 1 = .ok z' := by decide +kernel
  have hxz : x.date ≤ z.date := by decide
  have hxw : x.date ≤ w.date := by decide
  have hwz : w.date ≤ z.date := by decide
  obtain ⟨-, -, -, hbetween⟩ := offset_keeps_days_in_order x z x' z' e 1 h hxz hx hz
  exact ⟨h, hxz, hx, hz, hxw, hwz, hbetween w hxw hwz⟩

end Instant
end WikiDates
