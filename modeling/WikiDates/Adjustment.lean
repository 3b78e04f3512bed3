import WikiDates.Failure

/-!
# Adjusting an instant

An expression changes an instant in one of two ways, amount by amount, each on the result of the one
before.

* As an *offset*, it adds every amount, with one sign for all.
* As an *override*, it sets every unit to its amount. The unit is set back to its first value and
the amount is counted from there, so an amount that is too large carries on: month 12 is January of
the next year, and day 0 is the last day of the month before. Months count from 0. When a year or a
month is set, the day of the month is counted on from the first, so it may carry into the next
month.
-/

namespace WikiDates

/-- How the failure of a shift is reported: as a fault of range if the shift can be written out, and
by what keeps it from being written otherwise. -/
def Shift.failure (s : Shift) (report : RangeFault → Failure) (fault : RangeFault) : Failure :=
  if s.amountTexts?.isNone then .notFinite
  else if s.year.any (!Numeral.isWritable ·) then .tooManyDigits
  else report fault

/-- The instant that a shift leads to. -/
def Instant.shift (x : Instant) (s : Shift) : Except Failure Instant :=
  if s.isCarriable then (s.addTo x).mapError (s.failure (.outOfRange s x)) else .error .notFinite

namespace Assignment

/-- The shift that adds an amount `sign` times. -/
def offsetShift (sign : Int) (a : Assignment) : Shift :=
  let n := sign * a.magnitude
  match a.unit with
  | .year => { years := n }
  | .month => { months := n }
  | .day => { days := n }
  | .hour => { hours := n }
  | .minute => { minutes := n }
  | .second => { seconds := n }
  | .millisecond => { microseconds := n * 1000 }

/-- The shift that sets a unit to an amount, from the given day of a month. -/
def overrideShift (day : Nat) (a : Assignment) : Shift :=
  let n : Int := a.magnitude
  match a.unit with
  | .year => { year := some a.magnitude, reset := [.day], days := day - 1 }
  | .month => { months := n, reset := [.month, .day], days := day - 1 }
  | .day => { days := n - 1, reset := [.day] }
  | .hour => { hours := n, reset := [.hour] }
  | .minute => { minutes := n, reset := [.minute] }
  | .second => { seconds := n, reset := [.second] }
  | .millisecond => { microseconds := n * 1000, reset := [.millisecond] }

end Assignment

namespace Instant

/-- Set one unit of an instant. -/
def overrideOne (x : Instant) (a : Assignment) : Except Failure Instant :=
  if a.unit = .year ∧ a.magnitude < 1 then .error .yearZero
  else x.shift (a.overrideShift x.date.day)

/-- Add the amounts of an expression, each `sign` times. -/
def offset (x : Instant) (e : Expression) (sign : Int) : Except Failure Instant :=
  e.foldlM (fun x a => x.shift (a.offsetShift sign)) x

/-- Set units to the amounts of an expression. -/
def override (x : Instant) (e : Expression) : Except Failure Instant :=
  e.foldlM overrideOne x

end Instant
end WikiDates
