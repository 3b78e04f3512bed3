import WikiDates.Calendar.Instant
import WikiDates.Number.Significant
import WikiDates.TimeUnit

/-!
# Calendar shifts

A shift leads from one instant to another in three moves: some fields are set back to their first
value or, for the year, to a given one; then months are counted, where a day that the reached month
does not have becomes its last day; then a length of time is added.

Months are counted by their index, `12 * year + month - 1`, so a year is twelve months. The amounts
of a shift are unbounded; only what they lead to has to lie in the calendar, and a `RangeFault` says
which bound was hit first.
-/

namespace WikiDates

/-- A step on the calendar. -/
structure Shift where
  /-- Years to add. -/
  years : Int := 0
  /-- Months to add. -/
  months : Int := 0
  /-- Days to add. -/
  days : Int := 0
  /-- Hours to add. -/
  hours : Int := 0
  /-- Minutes to add. -/
  minutes : Int := 0
  /-- Seconds to add. -/
  seconds : Int := 0
  /-- Microseconds to add. -/
  microseconds : Int := 0
  /-- The year to start from, if it is not the year of the instant. -/
  year : Option Nat := none
  /-- The fields that start from their first value: 1 for months and days, 0 for a clock. -/
  reset : List TimeUnit := []
  deriving DecidableEq, Repr

/-- The first bound that a shift fails to keep. -/
inductive RangeFault where
  /-- The reached year does not fit in a signed word of 64 bits. -/
  | yearBeyond64
  /-- The reached year is too large for a signed word of 32 bits. -/
  | yearAbove32
  /-- The reached year is too small for a signed word of 32 bits. -/
  | yearBelow32
  /-- The reached year is not a year of the calendar. -/
  | year (n : Int)
  /-- The whole days to add do not fit in a signed word of 32 bits. -/
  | daysBeyond32
  /-- More whole days than a length of time may have. -/
  | days (n : Int)
  /-- The reached instant lies outside the calendar. -/
  | date
  deriving DecidableEq, Repr

/-- The report of a range fault. -/
def RangeFault.message : RangeFault → String
  | yearBeyond64 => "Python int too large to convert to C long"
  | yearAbove32 => "signed integer is greater than maximum"
  | yearBelow32 => "signed integer is less than minimum"
  | year n => "year " ++ toString n ++ " is out of range"
  | daysBeyond32 => "Python int too large to convert to C int"
  | days n => "days=" ++ toString n ++ "; must have magnitude <= 999999999"
  | date => "date value out of range"

namespace Calendar

/-- The index of a month, counted from January of the year 0. -/
def monthIndex (year month : Nat) : Nat := 12 * year + (month - 1)

/-- Accept a year of the calendar. -/
def checkYear (n : Int) : Except RangeFault Unit :=
  if n < -9223372036854775808 ∨ 9223372036854775808 ≤ n then .error .yearBeyond64
  else if 2147483648 ≤ n then .error .yearAbove32
  else if n < -2147483648 then .error .yearBelow32
  else if n < firstYear ∨ lastYear < n then .error (.year n)
  else .ok ()

/-- Accept a number of whole days to add. -/
def checkDays (n : Int) : Except RangeFault Unit :=
  if n < -2147483648 ∨ 2147483648 ≤ n then .error .daysBeyond32
  else if 999999999 < n.natAbs then .error (.days n)
  else .ok ()

end Calendar

/-- The date in month `index` with the given day, or the last day of that month if it is shorter.
There is none if the month lies outside the calendar. -/
def Date.inMonth? (index : Int) (day : Nat) (day_pos : 1 ≤ day) : Option Date :=
  if h : 12 ≤ index ∧ index < 120000 then
    let year := (index / 12).toNat
    let month := (index % 12).toNat + 1
    have first : 1 ≤ month ∧ month ≤ 12 := by omega
    have length := Calendar.daysInMonth_ge year month
    some
      { year, month, day := min day (Calendar.daysInMonth year month)
        year_pos := by omega
        year_le := by omega
        month_pos := first.1
        month_le := first.2
        day_pos := by omega
        day_le := Nat.min_le_right _ _ }
  else none

/-- The time of day with some of its fields set to 0. -/
def TimeOfDay.cleared (t : TimeOfDay) (units : List TimeUnit) : TimeOfDay :=
  let part (unit : TimeUnit) (size : Nat) := if unit ∈ units then size else 0
  ⟨t.micros - part .hour (t.hour * Calendar.microsPerHour) -
      part .minute (t.minute * Calendar.microsPerMinute) -
      part .second (t.second * Calendar.microsPerSecond) - part .millisecond t.microsecond,
    by have := t.micros_lt; omega⟩

namespace Shift

/-! ### What a shift does -/

/-- The index of the month that a shift leads to, before its length of time is added. -/
def monthIndexFrom (s : Shift) (d : Date) : Int :=
  Calendar.monthIndex (s.year.getD d.year) (if .month ∈ s.reset then 1 else d.month) +
    12 * s.years + s.months

/-- The day of the month that a shift starts from. -/
def dayFrom (s : Shift) (d : Date) : Nat := if .day ∈ s.reset then 1 else d.day

theorem dayFrom_pos (s : Shift) (d : Date) : 1 ≤ s.dayFrom d := by
  unfold dayFrom
  split
  · exact Nat.le_refl 1
  · exact d.day_pos

/-- The length of time that a shift adds, in microseconds. -/
def length (s : Shift) : Int :=
  s.days * Calendar.microsPerDay + s.hours * Calendar.microsPerHour +
    s.minutes * Calendar.microsPerMinute + s.seconds * Calendar.microsPerSecond + s.microseconds

/-- The instant that a shift leads to. -/
def addTo (s : Shift) (x : Instant) : Except RangeFault Instant := do
  let index := s.monthIndexFrom x.date
  Calendar.checkYear (index / 12)
  match Date.inMonth? index (s.dayFrom x.date) (s.dayFrom_pos x.date) with
  | none => throw (.year (index / 12))
  | some date =>
    Calendar.checkDays (s.length / Calendar.microsPerDay)
    match Instant.addMicros? ⟨date, x.time.cleared s.reset⟩ s.length with
    | none => throw .date
    | some y => pure y

/-! ### How a shift is written

Amounts are written after they have been carried into the next larger unit, toward zero: at most 59
seconds, 59 minutes, 23 hours and 11 months remain. Days are not carried. -/

/-- Carry what is too large for a unit into the next larger one. -/
def carried (s : Shift) : Shift :=
  let seconds := s.seconds + s.microseconds.tdiv 1000000
  let minutes := s.minutes + seconds.tdiv 60
  let hours := s.hours + minutes.tdiv 60
  { s with
    years := s.years + s.months.tdiv 12
    months := s.months.tmod 12
    days := s.days + hours.tdiv 24
    hours := hours.tmod 24
    minutes := minutes.tmod 60
    seconds := seconds.tmod 60
    microseconds := s.microseconds.tmod 1000000 }

/-- Whether a shift speaks of the time of day: it sets a clock back, or an amount below a day
remains after carrying. -/
def hasTime (s : Shift) : Bool :=
  s.carried.hours ≠ 0 || s.carried.minutes ≠ 0 || s.carried.seconds ≠ 0 ||
    s.carried.microseconds ≠ 0 || s.reset.any fun unit => unit ≠ .month && unit ≠ .day

/-- Whether every amount that may have to be carried has a nearest double-precision number; the sign
of an amount is taken from that number. -/
def isCarriable (s : Shift) : Bool :=
  [s.microseconds, s.seconds, s.minutes, s.hours, s.months].all fun n =>
    n.natAbs < Binary64.limit

/-- The written amounts other than zero, the largest unit first, unless one of them is too large. -/
def amountTexts? (s : Shift) : Option (List String) :=
  [("years", s.carried.years), ("months", s.carried.months), ("days", s.carried.days),
    ("hours", s.carried.hours), ("minutes", s.carried.minutes), ("seconds", s.carried.seconds),
    ("microseconds", s.carried.microseconds)].filter (·.2 ≠ 0) |>.mapM fun (name, n) =>
      (Numeral.signedSignificant? n).map fun text => name ++ "=" ++ text

/-- The written fields that a shift starts from. -/
def fieldTexts (s : Shift) : List String :=
  s.year.toList.map ("year=" ++ toString ·) ++
    ([(.month, "month=1"), (.day, "day=1"), (.hour, "hour=0"), (.minute, "minute=0"),
      (.second, "second=0"), (.millisecond, "microsecond=0")].filter fun (unit, _) =>
        decide (unit ∈ s.reset)).map Prod.snd

/-- A shift as it is shown in a report. -/
def toText (s : Shift) : String :=
  "relativedelta(" ++ ", ".intercalate (s.amountTexts?.getD [] ++ s.fieldTexts) ++ ")"

end Shift
end WikiDates
