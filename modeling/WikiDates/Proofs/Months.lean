import WikiDates.Proofs.Offset
import WikiDates.Proofs.Override

/-!
# Offsets by years and months

An offset of years and months counts months. Its amounts lead from one month index to the next, each
of them has to be the index of a month of the calendar, and the day of the month is cut down to the
length of every month on the way. So a day that a short month has cut down does not come back in a
longer one.

`Instant.exists_offset_iff_of_months` says when such amounts lead to an instant: they move the index of
the month (`Instant.moves_of_months`). `Instant.of_offset_of_months` says to which one, by induction on
the expression: the indices that are passed from `x` on are those that are passed from the next instant
on, behind the first (`Instant.monthAfter_cons`).
-/

namespace WikiDates

open Calendar Results

/-! ### Months and their indices -/

namespace Calendar

/-- The index is that of a month of the calendar. -/
def IsMonth (index : Int) : Prop :=
  ∃ year month : Nat, (1 ≤ year ∧ year ≤ 9999) ∧ (1 ≤ month ∧ month ≤ 12) ∧
    index = monthIndex year month

/-- The number of days in the month with an index. -/
def daysInIndex (index : Int) : Nat := daysInMonth (index / 12).toNat ((index % 12).toNat + 1)

theorem isMonth_iff {index : Int} : IsMonth index ↔ 12 ≤ index ∧ index < 120000 := by
  unfold IsMonth monthIndex
  constructor
  · rintro ⟨year, month, hyear, hmonth, rfl⟩
    omega
  · rintro ⟨hlow, hhigh⟩
    exact ⟨(index / 12).toNat, (index % 12).toNat + 1, by omega, by omega, by omega⟩

instance (index : Int) : Decidable (IsMonth index) := decidable_of_iff _ isMonth_iff.symm

end Calendar

namespace Date

/-- The index of the month of a date. -/
def monthIndex (d : Date) : Nat := Calendar.monthIndex d.year d.month

theorem monthIndex_eq_iff {d : Date} {index : Int} :
    (d.monthIndex : Int) = index ↔
      (d.year : Int) = index / 12 ∧ (d.month : Int) = index % 12 + 1 := by
  have hpos := d.month_pos
  have hle := d.month_le
  unfold monthIndex Calendar.monthIndex
  omega

theorem isMonth_monthIndex (d : Date) : IsMonth d.monthIndex :=
  ⟨d.year, d.month, ⟨d.year_pos, d.year_le⟩, ⟨d.month_pos, d.month_le⟩, rfl⟩

theorem daysInIndex_monthIndex (d : Date) :
    daysInIndex d.monthIndex = daysInMonth d.year d.month := by
  obtain ⟨hyear, hmonth⟩ := monthIndex_eq_iff.mp (rfl : (d.monthIndex : Int) = d.monthIndex)
  unfold daysInIndex
  rw [← hyear]
  congr 1
  omega

/-- A month of the calendar has every day, or its last one. -/
theorem inMonth?_eq_some_iff_monthIndex {index : Int} {day : Nat} {h : 1 ≤ day} {d : Date} :
    inMonth? index day h = some d ↔
      (d.monthIndex : Int) = index ∧ d.day = min day (daysInIndex index) := by
  rw [inMonth?_eq_some_iff, ← isMonth_iff, monthIndex_eq_iff]
  constructor
  · rintro ⟨-, hyear, hmonth, hday⟩
    have hindex := monthIndex_eq_iff.mpr ⟨hyear, hmonth⟩
    refine ⟨⟨hyear, hmonth⟩, ?_⟩
    rw [← hindex, daysInIndex_monthIndex, hday]
  · rintro ⟨⟨hyear, hmonth⟩, hday⟩
    have hindex := monthIndex_eq_iff.mpr ⟨hyear, hmonth⟩
    rw [← hindex, daysInIndex_monthIndex] at hday
    exact ⟨hindex ▸ d.isMonth_monthIndex, hyear, hmonth, hday⟩

theorem exists_inMonth? {index : Int} {day : Nat} (hindex : IsMonth index) (hday : 1 ≤ day) :
    ∃ d, inMonth? index day hday = some d := by
  unfold inMonth?
  rw [dif_pos (isMonth_iff.mp hindex)]
  exact ⟨_, rfl⟩

end Date

/-! ### One amount -/

namespace Assignment

/-- The unit of the amount is counted in months. -/
def IsOfMonths (a : Assignment) : Prop := a.unit = .year ∨ a.unit = .month

/-- The number of months that an amount of years or months stands for. -/
def months (a : Assignment) : Nat :=
  match a.unit with
  | .year => 12 * a.magnitude
  | .month => a.magnitude
  | _ => 0

end Assignment

/-- The number of months that the years and months of an expression stand for. -/
def Expression.months : Expression → Nat
  | [] => 0
  | a :: e => a.months + months e

theorem Expression.months_eq_total (e : Expression) : e.months = e.total Assignment.months := by
  induction e with
  | nil => rfl
  | cons a e ih => rw [months, total, ih]

namespace Assignment

variable {sign : Int} {a : Assignment}

/-- Adding years or months moves the month index and nothing else. -/
theorem offsetShift_of_months (sign : Int) (h : a.IsOfMonths) (d : Date) :
    (a.offsetShift sign).monthIndexFrom d = d.monthIndex + sign * a.months ∧
      (a.offsetShift sign).dayFrom d = d.day ∧ (a.offsetShift sign).reset = [] ∧
      (a.offsetShift sign).length = 0 := by
  obtain ⟨unit, v⟩ := a
  cases unit with
  | year =>
      simp [offsetShift, Shift.monthIndexFrom, Shift.dayFrom, Shift.length, Date.monthIndex, months,
        Int.mul_left_comm]
  | month =>
      simp [offsetShift, Shift.monthIndexFrom, Shift.dayFrom, Shift.length, Date.monthIndex, months]
  | day | hour | minute | second | millisecond => simp [IsOfMonths] at h

/-- Only a number of months of astronomical size cannot be carried. -/
theorem isCarriable_offsetShift_of_months (h : a.IsOfMonths)
    (hsmall : (sign * a.months).natAbs < 1000000000000000000) :
    (a.offsetShift sign).isCarriable = true := by
  rw [Shift.isCarriable_offsetShift_iff]
  rintro ⟨hyear, -⟩
  have hmonth : a.unit = .month := h.resolve_left hyear
  have hsize : a.size = a.months := by
    simp [size, months, hmonth]
  rw [Int.natAbs_mul, Int.natAbs_natCast, ← hsize] at hsmall
  exact Nat.lt_of_lt_of_le hsmall Shift.limit_large

end Assignment

namespace Instant

variable {sign : Int} {a : Assignment} {x y z : Instant} {e : Expression}

/-- Years or months land in the month with the sum as its index, at the same time of day. -/
theorem landing?_of_months (h : a.IsOfMonths) :
    (a.offsetShift sign).landing? x =
      (Date.inMonth? (x.date.monthIndex + sign * a.months) x.date.day x.date.day_pos).map
        fun d => ⟨d, x.time⟩ := by
  obtain ⟨hindex, hday, hreset, -⟩ := Assignment.offsetShift_of_months sign h x.date
  unfold Shift.landing? Shift.landingDate?
  simp only [hindex, hday, hreset, TimeOfDay.cleared_nil]

/-- Adding years or months leads to the month with the sum as its index and cuts down the day. -/
theorem shift_eq_ok_iff_of_months (h : a.IsOfMonths) :
    x.shift (a.offsetShift sign) = .ok y ↔
      (y.date.monthIndex : Int) = x.date.monthIndex + sign * a.months ∧
        y.date.day = min x.date.day (daysInIndex y.date.monthIndex) ∧ y.time = x.time := by
  have hlength := (Assignment.offsetShift_of_months sign h x.date).2.2.2
  rw [shift_eq_ok_iff, Shift.addTo_eq_ok_iff, landing?_of_months h, hlength]
  constructor
  · rintro ⟨-, z, hz, hcount⟩
    obtain ⟨d, hd, rfl⟩ := Option.map_eq_some_iff.mp hz
    have same : y = ⟨d, x.time⟩ := micros_injective (by omega)
    obtain ⟨hindex, hday⟩ := Date.inMonth?_eq_some_iff_monthIndex.mp hd
    rw [same]
    exact ⟨hindex, hindex ▸ hday, rfl⟩
  · rintro ⟨hindex, hday, htime⟩
    -- Both indices lie in the calendar, so the amount is small enough to be carried.
    have hx := isMonth_iff.mp x.date.isMonth_monthIndex
    have hy := isMonth_iff.mp y.date.isMonth_monthIndex
    refine ⟨Assignment.isCarriable_offsetShift_of_months h (by omega), y, ?_, by omega⟩
    refine Option.map_eq_some_iff.mpr ⟨y.date, ?_, Instant.ext rfl htime.symm⟩
    exact Date.inMonth?_eq_some_iff_monthIndex.mpr ⟨hindex, hindex ▸ hday⟩

theorem exists_shift_iff_of_months (h : a.IsOfMonths) :
    (∃ y, x.shift (a.offsetShift sign) = .ok y) ↔
      IsMonth (x.date.monthIndex + sign * a.months) := by
  constructor
  · rintro ⟨y, hy⟩
    rw [← ((shift_eq_ok_iff_of_months h).mp hy).1]
    exact y.date.isMonth_monthIndex
  · intro hmonth
    obtain ⟨d, hd⟩ := Date.exists_inMonth? hmonth x.date.day_pos
    obtain ⟨hindex, hday⟩ := Date.inMonth?_eq_some_iff_monthIndex.mp hd
    exact ⟨⟨d, x.time⟩, (shift_eq_ok_iff_of_months h).mpr ⟨hindex, hindex ▸ hday, rfl⟩⟩

/-- An amount of years or months moves the month index within the calendar. -/
theorem moves_of_months (h : a.IsOfMonths) :
    Moves (fun x => x.date.monthIndex) IsMonth Assignment.months sign a where
  index_eq := fun hstep => ((shift_eq_ok_iff_of_months h).mp hstep).1
  exists_iff := exists_shift_iff_of_months h

/-! ### A whole expression -/

/-- The month index that the first `k` amounts of an expression lead to. -/
def monthAfter (x : Instant) (e : Expression) (sign : Int) (k : Nat) : Int :=
  x.date.monthIndex + sign * Expression.months (e.take k)

/-- The lengths of the months that the amounts of an expression lead to, one after another. -/
def lengthsReached (x : Instant) (e : Expression) (sign : Int) : List Nat :=
  (List.range e.length).map fun k => daysInIndex (x.monthAfter e sign (k + 1))

@[simp] theorem monthAfter_zero : x.monthAfter e sign 0 = x.date.monthIndex := by
  simp [monthAfter, Expression.months]

/-- What is reached behind the first amount is reached from where that amount leads to. -/
theorem monthAfter_cons (h : (y.date.monthIndex : Int) = x.date.monthIndex + sign * a.months)
    (k : Nat) : x.monthAfter (a :: e) sign (k + 1) = y.monthAfter e sign k := by
  unfold monthAfter
  rw [h, List.take_succ_cons, Expression.months, Int.natCast_add, Int.mul_add, Int.add_assoc]

theorem lengthsReached_cons (h : (y.date.monthIndex : Int) = x.date.monthIndex + sign * a.months) :
    x.lengthsReached (a :: e) sign = daysInIndex y.date.monthIndex :: y.lengthsReached e sign := by
  unfold lengthsReached
  rw [List.length_cons, List.range_succ_eq_map, List.map_cons, List.map_map, monthAfter_cons h,
    monthAfter_zero]
  congr 2
  funext k
  exact congrArg daysInIndex (monthAfter_cons h (k + 1))

/-- Amounts of years and months can be added exactly if every index on the way is a month. -/
theorem exists_offset_iff_of_months (h : ∀ a ∈ e, a.IsOfMonths) :
    (∃ z, x.offset e sign = .ok z) ↔ ∀ k ≤ e.length, IsMonth (x.monthAfter e sign k) := by
  simp only [monthAfter, Expression.months_eq_total]
  exact exists_offset_iff_of_moves (fun x => x.date.isMonth_monthIndex) fun a ha =>
    moves_of_months (h a ha)

/-- Amounts of years and months end in the last month, with the day that all months have left. -/
theorem of_offset_of_months (h : ∀ a ∈ e, a.IsOfMonths) (hz : x.offset e sign = .ok z) :
    (z.date.monthIndex : Int) = x.monthAfter e sign e.length ∧
      z.date.day = (x.lengthsReached e sign).foldl min x.date.day ∧ z.time = x.time := by
  induction e generalizing x with
  | nil =>
      cases hz
      exact ⟨monthAfter_zero.symm, rfl, rfl⟩
  | cons a e ih =>
      obtain ⟨ha, he⟩ := List.forall_mem_cons.mp h
      obtain ⟨y, hstep, hrest⟩ := offset_cons_eq_ok_iff.mp hz
      obtain ⟨hindex, hday, htime⟩ := (shift_eq_ok_iff_of_months ha).mp hstep
      obtain ⟨hlast, hleft, hkept⟩ := ih he hrest
      rw [List.length_cons, monthAfter_cons hindex, lengthsReached_cons hindex, List.foldl_cons,
        ← hday]
      exact ⟨hlast, hleft, hkept.trans htime⟩

/-! ### A year is twelve months -/

theorem shift_year_eq_ok_iff {n : Nat} :
    x.shift (Assignment.offsetShift sign ⟨.year, n⟩) = .ok y ↔
      x.shift (Assignment.offsetShift sign ⟨.month, 12 * n⟩) = .ok y := by
  rw [shift_eq_ok_iff_of_months (Or.inl rfl), shift_eq_ok_iff_of_months (Or.inr rfl)]
  rfl

/-- A number of years may stand for twelve times as many months, wherever it stands. -/
theorem offset_year_eq_ok_iff {before after : Expression} {n : Nat} :
    x.offset (before ++ ⟨.year, n⟩ :: after) sign = .ok z ↔
      x.offset (before ++ ⟨.month, 12 * n⟩ :: after) sign = .ok z := by
  simp only [offset_append_eq_ok_iff, offset_cons_eq_ok_iff, shift_year_eq_ok_iff]

/-- **Years and months are counted, and the day is clamped.** Amounts of years and months, in any
order, lead to an instant exactly if all partial sums are indices of months. That instant lies in
the last of these months, at the same time of day; its day is the least of the day at the start and
the lengths of all months on the way. -/
theorem offset_counts_months (x : Instant) (e : Expression) (sign : Int)
    (h : ∀ a ∈ e, a.unit = .year ∨ a.unit = .month) :
    ((∃ z, x.offset e sign = .ok z) ↔ ∀ k ≤ e.length, IsMonth (x.monthAfter e sign k)) ∧
      (∀ z, x.offset e sign = .ok z →
        (z.date.monthIndex : Int) = x.monthAfter e sign e.length ∧ z.time = x.time ∧
          some z.date.day = (x.date.day :: x.lengthsReached e sign).min?) ∧
      ∀ (before after : Expression) (n : Nat) (z : Instant),
        x.offset (before ++ ⟨.year, n⟩ :: after) sign = .ok z ↔
          x.offset (before ++ ⟨.month, 12 * n⟩ :: after) sign = .ok z := by
  refine ⟨exists_offset_iff_of_months h, ?_, ?_⟩
  · intro z hz
    obtain ⟨hindex, hday, htime⟩ := of_offset_of_months h hz
    refine ⟨hindex, htime, ?_⟩
    rw [List.min?_cons', hday]
  · intro before after n z
    exact offset_year_eq_ok_iff

/-- From January 31st, two months lead over February 29th to March 29th. -/
theorem day_stays_cut_down :
    let x := ofDate ⟨2012, 1, 31, by decide, by decide, by decide, by decide, by decide, by decide⟩
    let e : Expression := [⟨.month, 1⟩, ⟨.month, 1⟩]
    (∀ a ∈ e, a.unit = .year ∨ a.unit = .month) ∧
      ∃ z, x.offset e 1 = .ok z ∧ (z.date.monthIndex : Int) = monthIndex 2012 3 ∧
        z.date.day = 29 := by
  intro x e
  have h : ∀ a ∈ e, a.unit = .year ∨ a.unit = .month := by decide
  obtain ⟨hexists, hresult, -⟩ := offset_counts_months x e 1 h
  obtain ⟨z, hz⟩ := hexists.mpr (by decide)
  obtain ⟨hindex, -, hday⟩ := hresult z hz
  refine ⟨h, z, hz, hindex, ?_⟩
  have hleast : (x.date.day :: x.lengthsReached e 1).min? = some 29 := by decide
  rw [hleast] at hday
  exact Option.some.inj hday

end Instant
end WikiDates
