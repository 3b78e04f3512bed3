import WikiDates.Adjustment

/-!
# Amounts that can be carried

Before a shift is made its amounts are carried into larger units, which needs a nearest
double-precision number for every one of them, except for years and days, which are not carried.
`Assignment.size` is the amount that counts here.
-/

namespace WikiDates

namespace Assignment

/-- How many units a shift counts for an amount. Milliseconds are counted as microseconds. -/
def size (a : Assignment) : Nat :=
  if a.unit = .millisecond then a.magnitude * 1000 else a.magnitude

/-- Whether the amount is carried into a larger unit. -/
def IsCarried (a : Assignment) : Prop := a.unit ≠ .year ∧ a.unit ≠ .day

end Assignment

namespace Shift

theorem limit_pos : 0 < Binary64.limit := by decide +kernel

theorem limit_large : 1000000000000000000 ≤ Binary64.limit := by decide +kernel

theorem isCarriable_iff {s : Shift} :
    s.isCarriable = true ↔ s.microseconds.natAbs < Binary64.limit ∧
      s.seconds.natAbs < Binary64.limit ∧ s.minutes.natAbs < Binary64.limit ∧
      s.hours.natAbs < Binary64.limit ∧ s.months.natAbs < Binary64.limit := by
  simp [isCarriable]

theorem isCarriable_overrideShift_iff (day : Nat) (a : Assignment) :
    (a.overrideShift day).isCarriable = true ↔ (a.IsCarried → a.size < Binary64.limit) := by
  obtain ⟨unit, v⟩ := a
  have hpos := limit_pos
  rw [isCarriable_iff]
  cases unit <;>
    simp [Assignment.overrideShift, Assignment.IsCarried, Assignment.size, Int.natAbs_mul, hpos]

theorem isCarriable_offsetShift_iff (sign : Int) (a : Assignment) :
    (a.offsetShift sign).isCarriable = true ↔
      (a.IsCarried → sign.natAbs * a.size < Binary64.limit) := by
  obtain ⟨unit, v⟩ := a
  have hpos := limit_pos
  rw [isCarriable_iff]
  cases unit <;>
    simp [Assignment.offsetShift, Assignment.IsCarried, Assignment.size, Int.natAbs_mul, hpos,
      Nat.mul_assoc]

end Shift
end WikiDates
