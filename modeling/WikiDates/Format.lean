import WikiDates.Failure
import WikiDates.Locale.Resolution

/-!
# Writing an instant with a pattern

A pattern is written item by item: a literal character as itself, a field as a number or as a name
from the conventions of a locale. Numbers are padded with zeros to the width of their field and are
never cut, except for a year in a field of width 2, of which the last two digits are written.
Instants are taken as universal time.

Not every field can be written. The first item that cannot decides the failure. A date without a
time is written with the fields of the date only.
-/

namespace WikiDates.Format

open WikiDates.Locale (Conventions)

/-! ### Numbers -/

/-- A number in a field of the given width. -/
def number (width n : Nat) : Except Failure String := .ok (Numeral.zeroPadded width n)

/-- A year in a field of the given width. -/
def year (width n : Nat) : String :=
  let text := Numeral.zeroPadded width n
  if width = 2 then String.ofList (text.toList.drop (text.length - 2)) else text

/-- The fraction of the second to `width` places: the nearest double-precision number to the
fraction is rounded to that many decimal places and then multiplied by the power of ten, in
double-precision arithmetic, and what is left of the point is written. -/
def fraction (width microsecond : Nat) : Except Failure String :=
  let scaled : Option Nat :=
    if 308 < width then none
    else do
      let scale ← Binary64.ofNat? (Nat.pow 10 width)
      let value ← Binary64.ofRatio? microsecond Calendar.microsPerSecond
      let rounded ← value.roundedTo? width
      let product ← rounded.mul? scale
      pure product.floor
  match scaled with
  | some n => number width n
  | none => .error .notFinite

/-! ### Names -/

/-- The name of the month of a date. -/
def monthName (names : Vector String 12) (d : Date) : String :=
  names.get ⟨d.month - 1, by have := d.month_pos; have := d.month_le; omega⟩

/-- The quarter of a date, from 1. -/
def quarter (d : Date) : Nat := (d.month - 1) / 3 + 1

/-- The name of the quarter of a date. -/
def quarterName (names : Vector String 4) (d : Date) : String :=
  names.get ⟨(d.month - 1) / 3, by have := d.month_le; omega⟩

/-- The name of the day of the week of a date. -/
def dayName (names : Vector String 7) (d : Date) : String :=
  names.get ⟨d.weekday, Nat.mod_lt _ (by decide)⟩

/-- The number of the day in the week of a locale, from 1. -/
def dayOfWeek (c : Conventions) (d : Date) : Nat := c.week.daysBefore d.weekday + 1

/-- The name of the half of the day. -/
def halfName (names : Vector String 2) (t : TimeOfDay) : String :=
  if t.hour < 12 then names[0] else names[1]

/-- The name of the period of the day, from the names that `forms` selects. -/
def periodName (locale : Locale) (t : TimeOfDay) (width : Nat)
    (forms : Locale.DayPeriod → Locale.Forms (Option String)) : Except Failure String :=
  match locale.conventions.periodAt? t.secondOfDay with
  | none => .error (.unnamedPeriod "None" locale.name)
  | some period =>
    match (forms period).ofWidth width with
    | some name => .ok name
    | none => .error (.unnamedPeriod period.id locale.name)

/-- The time zone, which is always the universal time. -/
def zone (names : Locale.ZoneNames) (letter : Char) (width : Nat) : String :=
  match letter, width with
  | 'z', 4 => names.long
  | 'z', _ => names.short
  | 'Z', 4 => names.offset
  | 'Z', 5 => "Z"
  | 'Z', _ => "+0000"
  | 'O', 4 => names.offset
  | 'O', _ => "None"
  | 'V', 2 => "Etc/UTC"
  | 'V', 3 => "UTC"
  | 'x', 1 => "+00"
  | 'x', 2 => "+0000"
  | 'x', 4 => "+0000"
  | 'x', _ => "+00:00"
  | 'X', _ => "Z"
  | _, _ => names.region

/-! ### Fields and patterns -/

/-- Run a count of weeks, which may need a year outside the calendar. -/
def weeks (count : Except Nat Nat) : Except Failure Nat := count.mapError .yearOutside

/-- A field as a number up to width 2 and as a name from there on. -/
def numberOrName (width n : Nat) (name : String) : Except Failure String :=
  if width ≤ 2 then number width n else .ok name

/-- The text of a field. -/
def field (locale : Locale) (x : Instant) (letter : Char) (width : Nat) : Except Failure String :=
  let c := locale.conventions
  let d := x.date
  let t := x.time
  match letter with
  | 'G' => .ok (c.era.ofWidth width)
  | 'y' | 'u' => .ok (year width d.year)
  | 'Y' => (weeks (c.week.weekYear d)).map (year width)
  | 'Q' => numberOrName width (quarter d) (quarterName (c.quarters.ofWidth width) d)
  | 'q' => numberOrName width (quarter d) (quarterName (c.standaloneQuarters.ofWidth width) d)
  | 'M' => numberOrName width d.month (monthName (c.months.ofWidth width) d)
  | 'L' => numberOrName width d.month (monthName (c.standaloneMonths.ofWidth width) d)
  | 'w' => weeks (c.week.weekOfYear d) >>= number width
  | 'W' => number 1 (c.week.weekNumber d.day d.weekday)
  | 'd' => number width d.day
  | 'D' => number width d.dayOfYear
  | 'F' => number 1 ((d.day - 1) / 7 + 1)
  | 'E' => .ok (dayName (c.days.ofWidth width) d)
  | 'e' => numberOrName width (dayOfWeek c d) (dayName (c.days.ofWidth width) d)
  | 'c' => numberOrName width (dayOfWeek c d) (dayName (c.standaloneDays.ofWidth width) d)
  | 'a' => .ok (halfName (c.halves.ofWidth width) t)
  | 'b' => periodName locale t width (·.standalone)
  | 'B' => periodName locale t width (·.inTime)
  | 'h' => number width (if t.hour % 12 = 0 then 12 else t.hour % 12)
  | 'H' => number width t.hour
  | 'K' => number width (t.hour % 12)
  | 'k' => number width (if t.hour = 0 then 24 else t.hour)
  | 'm' => number width t.minute
  | 's' => number width t.second
  | 'S' => fraction width t.microsecond
  | 'A' => number width t.millisecondOfDay
  | 'z' | 'Z' | 'O' | 'v' | 'V' | 'x' | 'X' => .ok (zone c.zone letter width)
  | _ => .error (.unsupportedField letter)

/-- The text of an item. -/
def item (locale : Locale) (x : Instant) : Pattern.Item → Except Failure (List Char)
  | .literal c => .ok [c]
  | .field letter width => (field locale x letter width).map String.toList

/-! ### Dates without a time -/

/-- The part of the time that a field is written from, if it needs one. Fields of the date need
none, and neither does an offset from the universal time. -/
def timePart? : Char → Option String
  | 'a' | 'h' | 'H' | 'K' | 'k' => some "hour"
  | 'm' => some "minute"
  | 's' => some "second"
  | 'S' | 'A' => some "microsecond"
  | 'b' | 'B' | 'v' | 'V' => some "tzinfo"
  | 'z' => some "tzname"
  | _ => none

/-- The text of an item for a date without a time. -/
def dateItem (locale : Locale) (d : Date) : Pattern.Item → Except Failure (List Char)
  | .literal c => .ok [c]
  | .field letter width =>
    match timePart? letter with
    | some part => .error (.missingPart "datetime.date" part)
    | none => item locale (.ofDate d) (.field letter width)

end Format

/-- The text of a date without a time, written with a pattern. -/
def Pattern.formatDate (p : Pattern) (locale : Locale) (d : Date) : Except Failure String :=
  (p.mapM (Format.dateItem locale d)).map fun texts => String.ofList texts.flatten

/-- The text of an instant, written with a pattern. -/
def Pattern.format (p : Pattern) (locale : Locale) (x : Instant) : Except Failure String :=
  (p.mapM (Format.item locale x)).map fun texts => String.ofList texts.flatten

/-- Read a pattern and a locale, and write an instant with them. -/
def Instant.format (x : Instant) (pattern locale : String) : Except Failure String := do
  let p ← (Pattern.parse pattern).mapError (.invalidPattern pattern)
  let l ← (Locale.parse locale).mapError .locale
  p.format l x

end WikiDates
