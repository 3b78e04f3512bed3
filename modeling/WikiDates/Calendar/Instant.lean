import WikiDates.Calendar.Date
import WikiDates.Calendar.TimeOfDay
import WikiDates.Number.Numeral

/-!
# Instants

An instant is a date with a time of day, without a time zone. Its linear view is `Instant.micros`,
the number of microseconds since the first instant of the calendar, 0001-01-01T00:00:00; lengths of
time are added in that view.
-/

namespace WikiDates

/-- A date with a time of day. -/
structure Instant where
  /-- The date. -/
  date : Date
  /-- The time of day. -/
  time : TimeOfDay
  deriving DecidableEq, Repr

namespace Instant

/-- Microseconds since 0001-01-01T00:00:00. -/
def micros (x : Instant) : Nat := (x.date.dayNumber - 1) * Calendar.microsPerDay + x.time.micros

/-- The number of microseconds in the whole calendar. -/
def microsInCalendar : Nat := Calendar.lastDay * Calendar.microsPerDay

/-- The instant `n` microseconds after 0001-01-01T00:00:00, if it lies in the calendar. -/
def ofMicros? (n : Nat) : Option Instant :=
  (Date.ofDayNumber? (n / Calendar.microsPerDay + 1)).map fun date =>
    ⟨date, ⟨n % Calendar.microsPerDay, Nat.mod_lt _ (by decide)⟩⟩

/-- The instant `length` microseconds away, if it lies in the calendar. -/
def addMicros? (x : Instant) (length : Int) : Option Instant :=
  let n := (x.micros : Int) + length
  if 0 ≤ n ∧ n < microsInCalendar then ofMicros? n.toNat else none

/-- Midnight of a date. -/
def ofDate (d : Date) : Instant := ⟨d, .midnight⟩

end Instant

/-! ### Texts -/

/-- A date as `2011-09-08`. -/
def Date.toText (d : Date) : String :=
  Numeral.zeroPadded 4 d.year ++ "-" ++ Numeral.zeroPadded 2 d.month ++ "-" ++
    Numeral.zeroPadded 2 d.day

/-- A time of day as `09:54:55`, followed by six decimal places unless they are all zero. -/
def TimeOfDay.toText (t : TimeOfDay) : String :=
  Numeral.zeroPadded 2 t.hour ++ ":" ++ Numeral.zeroPadded 2 t.minute ++ ":" ++
    Numeral.zeroPadded 2 t.second ++
    if t.microsecond = 0 then "" else "." ++ Numeral.zeroPadded 6 t.microsecond

/-- An instant as its date and its time of day with `between` between them. -/
def Instant.toText (x : Instant) (between : String) : String :=
  x.date.toText ++ between ++ x.time.toText

/-- An instant as `2011-09-08T09:54:55`. -/
def Instant.isoText (x : Instant) : String := x.toText "T"

end WikiDates
