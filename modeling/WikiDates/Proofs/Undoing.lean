import WikiDates.Proofs.DayOrder

/-!
# Offsets that are taken back

    x ──a₁──▶ · ──a₂──▶ z ──a₂ back──▶ · ──a₁ back──▶ x

An offset is taken back by its amounts in the opposite order, with the opposite sign. An amount of
fixed length is always undone by that. Years and months are undone as long as they do not cut down the
day of the month, since the month that they came from has that day.

A day that has been cut down does not come back. What is then reached lies before the start, and it
stays behind through all amounts that are still to be taken back (`Instant.offset_back_le`). So
`Instant.offset_undone_iff` is an equivalence.
-/

namespace WikiDates

open Calendar

namespace Assignment

/-- Every unit is counted in months or has a length of its own. -/
theorem isOfMonths_or_isOfFixedLength (a : Assignment) : a.IsOfMonths ∨ a.IsOfFixedLength := by
  by_cases hyear : a.unit = .year
  · exact .inl (.inl hyear)
  by_cases hmonth : a.unit = .month
  · exact .inl (.inr hmonth)
  exact .inr ⟨hyear, hmonth⟩

end Assignment

namespace Instant

variable {sign : Int} {a : Assignment} {e : Expression} {v w x y z : Instant}

/-- No year or month of the expression changes the day of the month. -/
def KeepsDays (x : Instant) : Expression → Int → Prop
  | [], _ => True
  | a :: e, sign =>
    ∀ y, x.shift (a.offsetShift sign) = .ok y →
      (a.unit = .year ∨ a.unit = .month → y.date.day = x.date.day) ∧ y.KeepsDays e sign

theorem keepsDays_cons_iff (h : x.shift (a.offsetShift sign) = .ok y) :
    x.KeepsDays (a :: e) sign ↔
      (a.IsOfMonths → y.date.day = x.date.day) ∧ y.KeepsDays e sign := by
  constructor
  · intro hkeeps
    exact hkeeps y h
  · intro hkeeps y' hy'
    obtain rfl : y = y' := Except.ok.inj (h.symm.trans hy')
    exact hkeeps

/-! ### One amount -/

/-- An amount that leaves the day of the month alone is undone by its opposite. -/
theorem shift_undone (hstep : x.shift (a.offsetShift sign) = .ok y)
    (hday : a.IsOfMonths → y.date.day = x.date.day) :
    y.shift (a.offsetShift (-sign)) = .ok x := by
  rcases a.isOfMonths_or_isOfFixedLength with hmonths | hfixed
  · obtain ⟨hindex, -, htime⟩ := (shift_eq_ok_iff_of_months hmonths).mp hstep
    rw [shift_eq_ok_iff_of_months hmonths, Int.neg_mul]
    refine ⟨by omega, ?_, htime.symm⟩
    -- The month that is returned to has its day.
    rw [hday hmonths, Date.daysInIndex_monthIndex, Nat.min_eq_left x.date.day_le]
  · have hcount := (shift_eq_ok_iff_of_fixed hfixed).mp hstep
    rw [shift_eq_ok_iff_of_fixed hfixed, Int.neg_mul]
    omega

/-- Taking back years or months from a day that is not later than the result does not lead beyond the
start, and it leads to the day of the start only from the result, if that still has its day. -/
theorem date_back_le (h : a.IsOfMonths) (hstep : x.shift (a.offsetShift sign) = .ok y)
    (hle : w.date ≤ y.date) (hback : w.shift (a.offsetShift (-sign)) = .ok v) :
    v.date ≤ x.date ∧ (v.date = x.date → w.date = y.date ∧ y.date.day = x.date.day) := by
  obtain ⟨hindex, hday, -⟩ := (shift_eq_ok_iff_of_months h).mp hstep
  obtain ⟨hindex', hday', -⟩ := (shift_eq_ok_iff_of_months h).mp hback
  rw [Int.neg_mul] at hindex'
  rw [Date.le_iff_monthIndex] at hle ⊢
  refine ⟨by omega, ?_⟩
  intro hsame
  rw [hsame] at hindex' hday'
  -- Neither way the day was cut down, since it is the same at both ends.
  refine ⟨le_antisymm (Date.le_iff_monthIndex.mpr hle) (Date.le_iff_monthIndex.mpr ?_), by omega⟩
  omega

/-- Taking back an amount from what is not later than the result does not lead beyond the start, and
it leads to the start only from the result, if that still has its day. -/
theorem shift_back_le (hstep : x.shift (a.offsetShift sign) = .ok y) (hle : w ≤ y)
    (hback : w.shift (a.offsetShift (-sign)) = .ok v) :
    v ≤ x ∧ (v = x → w = y ∧ (a.IsOfMonths → y.date.day = x.date.day)) := by
  rcases a.isOfMonths_or_isOfFixedLength with hmonths | hfixed
  · have hxy := ((shift_eq_ok_iff_of_months hmonths).mp hstep).2.2
    have hwv := ((shift_eq_ok_iff_of_months hmonths).mp hback).2.2
    obtain ⟨hdate, htime⟩ := le_iff.mp hle
    obtain ⟨hdate', hstart⟩ := date_back_le hmonths hstep hdate hback
    constructor
    · rw [le_iff, hwv, ← hxy]
      exact ⟨hdate', fun hsame => htime (hstart hsame).1⟩
    · rintro rfl
      obtain ⟨hsame, hday⟩ := hstart rfl
      exact ⟨Instant.ext hsame (hwv.symm.trans hxy.symm), fun _ => hday⟩
  · have hxy := (shift_eq_ok_iff_of_fixed hfixed).mp hstep
    have hwv := (shift_eq_ok_iff_of_fixed hfixed).mp hback
    rw [Int.neg_mul] at hwv
    rw [le_iff_micros] at hle ⊢
    constructor
    · omega
    · rintro rfl
      refine ⟨micros_injective (by omega), fun hmonths => ?_⟩
      exact absurd hmonths (not_or.mpr hfixed)

/-! ### A whole expression -/

theorem offset_reverse_cons_eq_ok_iff :
    w.offset (a :: e).reverse sign = .ok v ↔
      ∃ u, w.offset e.reverse sign = .ok u ∧ u.shift (a.offsetShift sign) = .ok v := by
  rw [List.reverse_cons, offset_append_eq_ok_iff]
  simp only [offset, List.foldlM_cons, List.foldlM_nil, bind_pure]

/-- An expression that leaves the days of months alone is undone by its opposite. -/
theorem offset_undone (h : x.offset e sign = .ok z) (hkeeps : x.KeepsDays e sign) :
    z.offset e.reverse (-sign) = .ok x := by
  induction e generalizing x with
  | nil =>
      cases h
      rfl
  | cons a e ih =>
      obtain ⟨y, hstep, hrest⟩ := offset_cons_eq_ok_iff.mp h
      obtain ⟨hday, hkeeps⟩ := (keepsDays_cons_iff hstep).mp hkeeps
      exact offset_reverse_cons_eq_ok_iff.mpr ⟨y, ih hrest hkeeps, shift_undone hstep hday⟩

/-- Taking back an expression from what is not later than its result does not lead beyond the start,
and it leads to the start only from the result, if no day was changed. -/
theorem offset_back_le (h : x.offset e sign = .ok z) (hle : w ≤ z)
    (hback : w.offset e.reverse (-sign) = .ok v) :
    v ≤ x ∧ (v = x → w = z ∧ x.KeepsDays e sign) := by
  induction e generalizing x v with
  | nil =>
      cases h
      cases hback
      exact ⟨hle, fun hsame => ⟨hsame, trivial⟩⟩
  | cons a e ih =>
      obtain ⟨y, hstep, hrest⟩ := offset_cons_eq_ok_iff.mp h
      obtain ⟨u, hback, hlast⟩ := offset_reverse_cons_eq_ok_iff.mp hback
      obtain ⟨huy, hsame⟩ := ih hrest hback
      obtain ⟨hvx, hsame'⟩ := shift_back_le hstep huy hlast
      refine ⟨hvx, ?_⟩
      intro hvx
      obtain ⟨huy, hday⟩ := hsame' hvx
      obtain ⟨hwz, hkeeps⟩ := hsame huy
      exact ⟨hwz, (keepsDays_cons_iff hstep).mpr ⟨hday, hkeeps⟩⟩

/-- **Offsets can be undone unless a day was clamped.** Taking back the amounts of an offset in the
opposite order leads back to the very instant that it started from exactly if none of its years and
months changed the day of the month. -/
theorem offset_undone_iff (x z : Instant) (e : Expression) (sign : Int)
    (h : x.offset e sign = .ok z) :
    z.offset e.reverse (-sign) = .ok x ↔ x.KeepsDays e sign := by
  constructor
  · intro hback
    obtain ⟨-, hsame⟩ := offset_back_le h le_rfl hback
    exact (hsame rfl).2
  · intro hkeeps
    exact offset_undone h hkeeps

/-- Two months, thirteen hours and a year on from noon of January 31st, over the end of March, and
back again. -/
theorem january_31st_is_returned_to :
    let x : Instant := ⟨⟨2012, 1, 31, by decide, by decide, by decide, by decide, by decide,
      by decide⟩, .ofFields 12 0 0 1⟩
    let z : Instant := ⟨⟨2013, 4, 1, by decide, by decide, by decide, by decide, by decide,
      by decide⟩, .ofFields 1 0 0 1⟩
    let e : Expression := [⟨.month, 2⟩, ⟨.hour, 13⟩, ⟨.year, 1⟩]
    x.offset e 1 = .ok z ∧ x.KeepsDays e 1 ∧ z.offset e.reverse (-1) = .ok x := by
  intro x z e
  let march : Instant := ⟨⟨2012, 3, 31, by decide, by decide, by decide, by decide, by decide,
    by decide⟩, x.time⟩
  let april : Instant := ⟨⟨2012, 4, 1, by decide, by decide, by decide, by decide, by decide,
    by decide⟩, z.time⟩
  have hmonths : x.shift (Assignment.offsetShift 1 ⟨.month, 2⟩) = .ok march := by decide +kernel
  have hhours : march.shift (Assignment.offsetShift 1 ⟨.hour, 13⟩) = .ok april := by decide +kernel
  have hyear : april.shift (Assignment.offsetShift 1 ⟨.year, 1⟩) = .ok z := by decide +kernel
  have hkeeps : x.KeepsDays e 1 := by
    rw [keepsDays_cons_iff hmonths, keepsDays_cons_iff hhours, keepsDays_cons_iff hyear]
    exact ⟨fun _ => rfl, fun hhour => absurd hhour (by simp [Assignment.IsOfMonths]), fun _ => rfl,
      trivial⟩
  have h : x.offset e 1 = .ok z := by decide +kernel
  exact ⟨h, hkeeps, (offset_undone_iff x z e 1 h).mpr hkeeps⟩

end Instant
end WikiDates
