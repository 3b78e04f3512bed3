import WikiDates.Proofs.Offset
import WikiDates.Proofs.Override

/-!
# Offsets by days and by the clock

A day and the units of the clock always have the same length, so an offset of such amounts is
addition of lengths of time. Its amounts lead from one count of microseconds to the next, each of
them has to be the count of an instant, and the last one is that of the result: a month, a leap day
or the end of a year on the way makes no difference.

`Instant.shift_eq_ok_iff_of_fixed` says so of a single amount, which makes it one that moves the count
(`Instant.moves_of_fixed`), and `Instant.offset_eq_ok_iff_of_fixed` of an expression. Since only sums of
lengths appear there, neither the order of the amounts matters nor the units in which a length is
given.
-/

namespace WikiDates

open Calendar Results

/-! ### Lengths of time -/

/-- The length of a unit in microseconds. Years and months have no length of their own. -/
def TimeUnit.micros : TimeUnit → Nat
  | .year => 0
  | .month => 0
  | .day => microsPerDay
  | .hour => microsPerHour
  | .minute => microsPerMinute
  | .second => microsPerSecond
  | .millisecond => 1000

namespace Assignment

/-- The unit of the amount has a length of its own. -/
def IsOfFixedLength (a : Assignment) : Prop := a.unit ≠ .year ∧ a.unit ≠ .month

/-- The length of time that an amount stands for, in microseconds. -/
def duration (a : Assignment) : Nat := a.magnitude * a.unit.micros

end Assignment

namespace Expression

/-- The length of time that the amounts of an expression stand for together, in microseconds. -/
def duration (e : Expression) : Nat := e.total Assignment.duration

end Expression

/-! ### One amount -/

namespace Assignment

variable {sign : Int} {a : Assignment}

/-- Adding an amount of fixed length moves neither the month nor the clock before its length of time
is added. -/
theorem offsetShift_of_fixed (sign : Int) (h : a.IsOfFixedLength) (d : Date) :
    (a.offsetShift sign).monthIndexFrom d = monthIndex d.year d.month ∧
      (a.offsetShift sign).dayFrom d = d.day ∧ (a.offsetShift sign).reset = [] ∧
      (a.offsetShift sign).length = sign * a.duration := by
  obtain ⟨unit, v⟩ := a
  obtain ⟨hyear, hmonth⟩ := h
  cases unit with
  | year => exact absurd rfl hyear
  | month => exact absurd rfl hmonth
  | day | hour | minute | second | millisecond =>
      simp [offsetShift, Shift.monthIndexFrom, Shift.dayFrom, Shift.length, duration,
        TimeUnit.micros, Int.mul_assoc]

/-- What is carried of an amount is at most its length in microseconds. -/
theorem size_le_duration (h : a.IsOfFixedLength) : a.size ≤ a.duration := by
  obtain ⟨unit, v⟩ := a
  obtain ⟨hyear, hmonth⟩ := h
  cases unit with
  | year => exact absurd rfl hyear
  | month => exact absurd rfl hmonth
  | day => exact Nat.le_mul_of_pos_right v (show 0 < microsPerDay by decide)
  | hour => exact Nat.le_mul_of_pos_right v (show 0 < microsPerHour by decide)
  | minute => exact Nat.le_mul_of_pos_right v (show 0 < microsPerMinute by decide)
  | second => exact Nat.le_mul_of_pos_right v (show 0 < microsPerSecond by decide)
  | millisecond => exact Nat.le_refl _

/-- Only a length of time beyond all calendars cannot be carried. -/
theorem isCarriable_offsetShift_of_fixed (h : a.IsOfFixedLength)
    (hsmall : (sign * a.duration).natAbs < 1000000000000000000) :
    (a.offsetShift sign).isCarriable = true := by
  rw [Shift.isCarriable_offsetShift_iff]
  intro _
  rw [Int.natAbs_mul, Int.natAbs_natCast] at hsmall
  calc
    sign.natAbs * a.size ≤ sign.natAbs * a.duration := Nat.mul_le_mul_left _ (size_le_duration h)
    _ < 1000000000000000000 := hsmall
    _ ≤ Binary64.limit := Shift.limit_large

end Assignment

namespace Instant

variable {sign : Int} {a : Assignment} {x y z : Instant} {e e' : Expression}

/-- Adding an amount of fixed length leads to the instant with the sum as its count. -/
theorem shift_eq_ok_iff_of_fixed (h : a.IsOfFixedLength) :
    x.shift (a.offsetShift sign) = .ok y ↔ (y.micros : Int) = x.micros + sign * a.duration := by
  obtain ⟨hindex, hday, hreset, hlength⟩ := Assignment.offsetShift_of_fixed sign h x.date
  rw [shift_eq_ok_iff, Shift.addTo_eq_ok_iff_of_same hindex hday, hreset, TimeOfDay.cleared_nil,
    hlength, ← micros_eq_countOn]
  constructor
  · rintro ⟨-, hcount⟩
    exact hcount
  · intro hcount
    -- Both counts lie in the calendar, so the length between them is small enough to be carried.
    have hx := x.micros_small
    have hy := y.micros_small
    exact ⟨Assignment.isCarriable_offsetShift_of_fixed h (by omega), hcount⟩

theorem inCalendar_micros (x : Instant) : InCalendar x.micros := inCalendar_iff.mpr ⟨x, rfl⟩

/-- An amount of fixed length moves the count of an instant within the calendar. -/
theorem moves_of_fixed (h : a.IsOfFixedLength) :
    Moves (fun x => x.micros) InCalendar Assignment.duration sign a where
  index_eq := fun hstep => (shift_eq_ok_iff_of_fixed h).mp hstep
  exists_iff := by
    intro x
    simp only [shift_eq_ok_iff_of_fixed h]
    exact inCalendar_iff.symm

/-! ### A whole expression -/

/-- The count that the first `k` amounts of an expression lead to. -/
def countAfter (x : Instant) (e : Expression) (sign : Int) (k : Nat) : Int :=
  x.micros + sign * Expression.duration (e.take k)

/-- Adding the amounts of an expression never leaves the calendar. -/
def OffsetStays (x : Instant) (e : Expression) (sign : Int) : Prop :=
  ∀ k ≤ e.length, InCalendar (x.countAfter e sign k)

instance (count : Int) : Decidable (InCalendar count) := inferInstanceAs (Decidable (_ ∧ _))

instance : Decidable (x.OffsetStays e sign) :=
  inferInstanceAs (Decidable (∀ k ≤ e.length, InCalendar (x.countAfter e sign k)))

theorem exists_offset_iff_of_fixed (h : ∀ a ∈ e, a.IsOfFixedLength) :
    (∃ z, x.offset e sign = .ok z) ↔ x.OffsetStays e sign :=
  exists_offset_iff_of_moves inCalendar_micros fun a ha => moves_of_fixed (h a ha)

/-- Amounts of fixed length lead to the instant with the sum as its count, if they stay in the
calendar. -/
theorem offset_eq_ok_iff_of_fixed (h : ∀ a ∈ e, a.IsOfFixedLength) :
    x.offset e sign = .ok z ↔
      x.OffsetStays e sign ∧ (z.micros : Int) = x.micros + sign * e.duration := by
  have hmoves : ∀ a ∈ e, Moves (fun x => x.micros) InCalendar Assignment.duration sign a :=
    fun a ha => moves_of_fixed (h a ha)
  have hcount : ∀ {z : Instant}, x.offset e sign = .ok z →
      (z.micros : Int) = x.micros + sign * e.duration :=
    index_of_offset hmoves
  constructor
  · intro hz
    exact ⟨(exists_offset_iff_of_fixed h).mp ⟨z, hz⟩, hcount hz⟩
  · rintro ⟨hstays, hsum⟩
    obtain ⟨z', hz'⟩ := (exists_offset_iff_of_fixed h).mpr hstays
    -- Both counts are the total, and an instant is told by its count.
    have same : z' = z := micros_injective (Int.ofNat.inj ((hcount hz').trans hsum.symm))
    exact same ▸ hz'

/-- Amounts that stand for the same length of time lead to the same instant. -/
theorem offset_of_same_duration (h : ∀ a ∈ e, a.IsOfFixedLength)
    (h' : ∀ a ∈ e', a.IsOfFixedLength) (hsame : e'.duration = e.duration)
    (hstays : x.OffsetStays e' sign) (hz : x.offset e sign = .ok z) :
    x.offset e' sign = .ok z := by
  obtain ⟨-, hcount⟩ := (offset_eq_ok_iff_of_fixed h).mp hz
  exact (offset_eq_ok_iff_of_fixed h').mpr ⟨hstays, hsame ▸ hcount⟩

/-- **Days and the clock are added as lengths of time.** Such amounts lead to an instant exactly if
all partial sums stay in the calendar, and then to the instant at the total. So their order does not
matter, nor into which units a length of time is put, as long as the calendar is not left on the way.
-/
theorem offset_adds_lengths (x : Instant) (e : Expression) (sign : Int)
    (h : ∀ a ∈ e, a.unit ≠ .year ∧ a.unit ≠ .month) :
    ((∃ z, x.offset e sign = .ok z) ↔ x.OffsetStays e sign) ∧
      ∀ z, x.offset e sign = .ok z →
        (z.micros : Int) = x.micros + sign * e.duration ∧
          (∀ e', e'.Perm e → x.OffsetStays e' sign → x.offset e' sign = .ok z) ∧
          ∀ e', (∀ a ∈ e', a.unit ≠ .year ∧ a.unit ≠ .month) → e'.duration = e.duration →
            x.OffsetStays e' sign → x.offset e' sign = .ok z := by
  refine ⟨exists_offset_iff_of_fixed h, fun z hz => ⟨?_, ?_, ?_⟩⟩
  · exact ((offset_eq_ok_iff_of_fixed h).mp hz).2
  · intro e' hperm hstays
    have h' : ∀ a ∈ e', a.IsOfFixedLength := fun a ha => h a (hperm.mem_iff.mp ha)
    exact offset_of_same_duration h h' (Expression.total_perm hperm) hstays hz
  · intro e' h' hsame hstays
    exact offset_of_same_duration h h' hsame hstays hz

/-- A millisecond and a day back from midnight of March 1st lead over February 29th to the end of
February 28th. -/
theorem back_over_leap_day :
    let x := ofDate ⟨2012, 3, 1, by decide, by decide, by decide, by decide, by decide, by decide⟩
    let z : Instant := ⟨⟨2012, 2, 28, by decide, by decide, by decide, by decide, by decide,
      by decide⟩, .ofFields 23 59 59 999000⟩
    let e : Expression := [⟨.millisecond, 1⟩, ⟨.day, 1⟩]
    (∀ a ∈ e, a.unit ≠ .year ∧ a.unit ≠ .month) ∧ x.offset e (-1) = .ok z := by
  intro x z e
  have h : ∀ a ∈ e, a.unit ≠ .year ∧ a.unit ≠ .month := by decide
  obtain ⟨hexists, hresult⟩ := offset_adds_lengths x e (-1) h
  obtain ⟨z', hz'⟩ := hexists.mpr (by decide)
  have hcount := (hresult z' hz').1
  have hsum : (x.micros : Int) + -1 * e.duration = z.micros := by decide
  have same : z' = z := micros_injective (Int.ofNat.inj (hcount.trans hsum))
  exact ⟨h, same ▸ hz'⟩

end Instant
end WikiDates
