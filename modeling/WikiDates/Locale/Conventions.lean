import WikiDates.Calendar.Week

/-!
# What a locale knows about dates

The conventions of a locale are the rules by which it counts weeks and the names that it gives to
months, days, quarters, the halves and the periods of a day, to the era and to the one time zone in
which all instants are taken. Most names come in three lengths. A date pattern may ask for names
that are used within a date or for names that stand alone.
-/

namespace WikiDates.Locale

/-! ### Lists of names -/

/-- The names of the months, January first. -/
def monthNames (jan feb mar apr may jun jul aug sep oct nov dec : String) : Vector String 12 :=
  #v[jan, feb, mar, apr, may, jun, jul, aug, sep, oct, nov, dec]

/-- The names of the days of the week, Monday first. -/
def dayNames (mon tue wed thu fri sat sun : String) : Vector String 7 :=
  #v[mon, tue, wed, thu, fri, sat, sun]

/-- The names of the quarters. -/
def quarterNames (first second third fourth : String) : Vector String 4 :=
  #v[first, second, third, fourth]

/-- The names of the halves of the day. -/
def halfNames (beforeNoon afterNoon : String) : Vector String 2 := #v[beforeNoon, afterNoon]

/-! ### Conventions -/

/-- A name in three lengths. -/
structure Forms (α : Type) where
  /-- The shortened name. -/
  abbreviated : α
  /-- The full name. -/
  wide : α
  /-- The shortest name, which may be ambiguous. -/
  narrow : α

/-- The length that a field of the given width asks for. -/
def Forms.ofWidth {α : Type} (forms : Forms α) : Nat → α
  | 4 => forms.wide
  | 5 => forms.narrow
  | _ => forms.abbreviated

/-- The names of the days of the week, Monday first. -/
structure DayNames where
  /-- The names in the three common lengths. -/
  forms : Forms (Vector String 7)
  /-- Names shorter than the abbreviated ones and still unambiguous. -/
  short : Vector String 7

/-- The length that a field of the given width asks for. -/
def DayNames.ofWidth (names : DayNames) (width : Nat) : Vector String 7 :=
  if width = 6 then names.short else names.forms.ofWidth width

/-- A part of the day, in seconds since midnight. -/
inductive Span where
  /-- A single second. -/
  | moment (second : Nat)
  /-- From one second up to, but not including, another; over midnight if the first is the later. -/
  | between (start stop : Nat)

/-- Whether a part of the day is a single second. -/
def Span.isMoment : Span → Bool
  | moment _ => true
  | between _ _ => false

/-- Whether a second of the day lies in a part of the day. -/
def Span.contains : Span → Nat → Bool
  | moment s, second => second == s
  | between start stop, second =>
    if start ≤ stop then start ≤ second && second < stop else start ≤ second || second < stop

/-- A period of the day, such as the morning. -/
structure DayPeriod where
  /-- The name of the period in reports. -/
  id : String
  /-- When it is. -/
  span : Span
  /-- Its names that stand alone, where there are such names. -/
  standalone : Forms (Option String)
  /-- Its names within a time. -/
  inTime : Forms (Option String)

/-- The names of the time zone, which is always the universal time. -/
structure ZoneNames where
  /-- The abbreviated name. -/
  short : String
  /-- The full name. -/
  long : String
  /-- The offset, as a full text. -/
  offset : String
  /-- The name of the time by its region, which is unknown. -/
  region : String

/-- The conventions of a locale. -/
structure Conventions where
  /-- How weeks are counted. -/
  week : Calendar.WeekRule
  /-- The periods of the day. -/
  periods : List DayPeriod
  /-- The months within a date. -/
  months : Forms (Vector String 12)
  /-- The months, standing alone. -/
  standaloneMonths : Forms (Vector String 12)
  /-- The days of the week within a date. -/
  days : DayNames
  /-- The days of the week, standing alone. -/
  standaloneDays : DayNames
  /-- The quarters within a date. -/
  quarters : Forms (Vector String 4)
  /-- The quarters, standing alone. -/
  standaloneQuarters : Forms (Vector String 4)
  /-- The era of all years. -/
  era : Forms String
  /-- The two halves of the day. -/
  halves : Forms (Vector String 2)
  /-- The time zone. -/
  zone : ZoneNames

/-- The period of the day in which a second lies. Periods of a single second come before all others.
-/
def Conventions.periodAt? (c : Conventions) (second : Nat) : Option DayPeriod :=
  (c.periods.find? fun p => p.span.isMoment && p.span.contains second).orElse fun _ =>
    c.periods.find? fun p => !p.span.isMoment && p.span.contains second

end WikiDates.Locale
