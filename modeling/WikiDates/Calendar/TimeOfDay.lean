/-!
# Times of day

A time of day is the number of microseconds since midnight, less than those of a whole day. Hours,
minutes, seconds and the rest are read off that number; every day has 24 hours of 60 minutes.
-/

namespace WikiDates

namespace Calendar

/-- Microseconds in a second. -/
def microsPerSecond : Nat := 1000000

/-- Microseconds in a minute. -/
def microsPerMinute : Nat := 60000000

/-- Microseconds in an hour. -/
def microsPerHour : Nat := 3600000000

/-- Microseconds in a day. -/
def microsPerDay : Nat := 86400000000

end Calendar

/-- A time of day. -/
structure TimeOfDay where
  /-- Microseconds since midnight. -/
  micros : Nat
  micros_lt : micros < 86400000000
  deriving DecidableEq, Repr

namespace TimeOfDay

/-- The first instant of the day. -/
def midnight : TimeOfDay := ⟨0, by decide⟩

/-- The hour, from 0 to 23. -/
def hour (t : TimeOfDay) : Nat := t.micros / Calendar.microsPerHour

/-- The minute of the hour. -/
def minute (t : TimeOfDay) : Nat := t.micros / Calendar.microsPerMinute % 60

/-- The second of the minute. -/
def second (t : TimeOfDay) : Nat := t.micros / Calendar.microsPerSecond % 60

/-- The microsecond of the second. -/
def microsecond (t : TimeOfDay) : Nat := t.micros % Calendar.microsPerSecond

/-- The second of the day. -/
def secondOfDay (t : TimeOfDay) : Nat := t.micros / Calendar.microsPerSecond

/-- The millisecond of the day. -/
def millisecondOfDay (t : TimeOfDay) : Nat := t.micros / 1000

/-- The microseconds since midnight of a clock reading, which need not be a time of day. -/
def countMicros (hour minute second microsecond : Nat) : Nat :=
  hour * Calendar.microsPerHour + minute * Calendar.microsPerMinute +
    second * Calendar.microsPerSecond + microsecond

/-- The time of day with the given fields, if there is one. -/
def of? (hour minute second microsecond : Nat) : Option TimeOfDay :=
  if h : hour < 24 ∧ minute < 60 ∧ second < 60 ∧ microsecond < 1000000 then
    some ⟨countMicros hour minute second microsecond, by
      simp only [countMicros, Calendar.microsPerHour, Calendar.microsPerMinute,
        Calendar.microsPerSecond]
      omega⟩
  else none

/-- The time of day with the given fields, each brought into its range. -/
def ofFields (hour minute second microsecond : Nat) : TimeOfDay :=
  ⟨countMicros (hour % 24) (minute % 60) (second % 60) (microsecond % 1000000), by
    simp only [countMicros, Calendar.microsPerHour, Calendar.microsPerMinute,
      Calendar.microsPerSecond]
    omega⟩

end TimeOfDay
end WikiDates
