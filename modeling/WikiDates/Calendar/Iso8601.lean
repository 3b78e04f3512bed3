import WikiDates.Calendar.Instant
import WikiDates.Text.DecimalDigit

/-!
# Reading an instant in the notation of ISO 8601

    text ──DateForm.read?──▶ date form ──resolve──▶ date
         ──Reading.read?───▶ clock reading ──on──▶ instant

A date is written in one of three forms: year, month and day, of which the last ones may be missing;
year and week, with or without a day of the week; year and day of the year. Each form is written
with dashes or without them. A time of day may follow, behind any one character: hours, minutes,
seconds and a fraction of a second, of which the last ones may be missing. A time zone may end it,
which has to be well formed and is not looked at further. All characters are ASCII.

The hour 24 is midnight at the end of the day. A week may reach beyond the year that it is written
with; a date that reaches beyond the calendar is a fault of its own.
-/

namespace WikiDates.Iso8601

/-- Why a text is not read as an instant. -/
inductive Fault where
  /-- It is not in the notation, or a part of it is out of range. -/
  | invalid
  /-- It is in the notation, but leads beyond the last day of the calendar. -/
  | outside
  deriving DecidableEq, Repr

/-- Read a number of exactly `width` digits in front, where `value` is the value of those read
before. -/
def number? : (width value : Nat) → List Char → Option (Nat × List Char)
  | 0, value, cs => some (value, cs)
  | _ + 1, _, [] => none
  | width + 1, value, c :: cs =>
    (Text.asciiDigitValue? c).bind fun d => number? width (10 * value + d) cs

/-! ### Dates -/

/-- A date as it is written, which need not be in range. -/
inductive DateForm where
  /-- Year, month and day. -/
  | calendar (year month day : Nat)
  /-- Year, week and day of the week, from 1 for Monday. -/
  | week (year week day : Nat)
  /-- Year and day of the year. -/
  | ordinal (year day : Nat)
  deriving DecidableEq, Repr

namespace DateForm

/-- Read year, month and day. With dashes, the day may be missing; month and day together may always
be. -/
def readCalendar? (cs : List Char) : Option (DateForm × List Char) := do
  let (year, rest) ← number? 4 0 cs
  match rest with
  | [] => some (calendar year 1 1, [])
  | '-' :: rest =>
    let (month, rest) ← number? 2 0 rest
    match rest with
    | [] => some (calendar year month 1, [])
    | '-' :: rest =>
      let (day, rest) ← number? 2 0 rest
      some (calendar year month day, rest)
    | _ => none
  | _ =>
    let (month, rest) ← number? 2 0 rest
    let (day, rest) ← number? 2 0 rest
    some (calendar year month day, rest)

/-- Read what follows the year in a week date. The day of the week is behind a dash if the week is.
-/
def readWeek? (year : Nat) (dashed : Bool) (cs : List Char) : Option (DateForm × List Char) := do
  let (n, rest) ← number? 2 0 cs
  match dashed, rest with
  | _, [] => some (week year n 1, [])
  | true, '-' :: rest =>
    let (day, rest) ← number? 1 0 rest
    some (week year n day, rest)
  | true, _ => none
  | false, _ =>
    let (day, rest) ← number? 1 0 rest
    some (week year n day, rest)

/-- Read what follows the year and its dash in a date that counts weeks or days. -/
def readCount? (year : Nat) (dashed : Bool) (cs : List Char) : Option (DateForm × List Char) :=
  match cs with
  | 'W' :: rest => readWeek? year dashed rest
  | _ => (number? 3 0 cs).map fun (day, rest) => (ordinal year day, rest)

/-- Read a date in front. What can be read as year, month and day is read so, even if it is then out
of range. -/
def read? (cs : List Char) : Option (DateForm × List Char) :=
  (readCalendar? cs).orElse fun _ => do
    let (year, rest) ← number? 4 0 cs
    match rest with
    | '-' :: rest => readCount? year true rest
    | _ => readCount? year false rest

/-- The day number of the Monday of the first week of a year, the week with January 4 in it. -/
def firstMonday (year : Nat) : Nat :=
  let n := Calendar.dayNumber year 1 4
  n - (n + 6) % 7

/-- The date that is written. -/
def resolve : DateForm → Except Fault Date
  | calendar year month day => (Date.of? year month day).elim (.error .invalid) .ok
  | week year n day =>
    if (1 ≤ year ∧ year ≤ Calendar.lastYear) ∧ (1 ≤ n ∧ n ≤ 53) ∧ 1 ≤ day ∧ day ≤ 7 then
      let number := firstMonday year + 7 * (n - 1) + (day - 1)
      if number ≤ Calendar.lastDay then (Date.ofDayNumber? number).elim (.error .invalid) .ok
      else .error .outside
    else .error .invalid
  | ordinal year day =>
    if (1 ≤ year ∧ year ≤ Calendar.lastYear) ∧ 1 ≤ day ∧ day ≤ Calendar.daysInYear year then
      (Date.ofDayNumber? (Calendar.daysBeforeYear year + day)).elim (.error .invalid) .ok
    else .error .invalid

end DateForm

/-! ### Times of day -/

/-- A time of day as it is written, which need not be in range. -/
structure Reading where
  /-- The hour; 24 is the end of the day. -/
  hour : Nat := 0
  /-- The minute. -/
  minute : Nat := 0
  /-- The second. -/
  second : Nat := 0
  /-- The microsecond, read off the fraction of the second. -/
  microsecond : Nat := 0
  deriving DecidableEq, Repr

/-- Whether `cs` are the hours and minutes of a time zone. -/
def isZoneOffset (cs : List Char) : Bool :=
  match number? 2 0 cs with
  | none => false
  | some (hours, rest) =>
    hours ≤ 23 &&
      match rest with
      | [] => true
      | ':' :: rest => (number? 2 0 rest).any fun (minutes, rest) => rest.isEmpty && minutes ≤ 59
      | _ => (number? 2 0 rest).any fun (minutes, rest) => rest.isEmpty && minutes ≤ 59

/-- Whether a time of day may end in front of `cs`: nothing follows, or a time zone. -/
def endsTime : List Char → Bool
  | [] => true
  | ['Z'] | ['z'] => true
  | '+' :: cs | '-' :: cs => isZoneOffset cs
  | _ => false

namespace Reading

/-- The microseconds that the digits of a fraction of a second stand for. What is finer is cut off.
-/
def fraction (digits : List Char) : Nat :=
  ((number? 6 0 ((digits ++ List.replicate 6 '0').take 6)).map Prod.fst).getD 0

/-- Read the fraction of a second, if there is one. -/
def readFraction? (cs : List Char) : Option Nat :=
  if endsTime cs then some 0
  else
    match cs with
    | '.' :: rest | ',' :: rest =>
      let digits := rest.takeWhile Char.isDigit
      if digits.isEmpty || !endsTime (rest.dropWhile Char.isDigit) then none
      else some (fraction digits)
    | _ => none

/-- Read the seconds and what follows them. -/
def readSeconds? (r : Reading) (colons : Bool) (cs : List Char) : Option Reading :=
  if endsTime cs then some r
  else
    let rest? := match colons, cs with
      | true, ':' :: rest => some rest
      | true, _ => none
      | false, _ => some cs
    do
      let (second, rest) ← number? 2 0 (← rest?)
      let microsecond ← readFraction? rest
      some { r with second, microsecond }

/-- Read the minutes and what follows them. -/
def readMinutes? (r : Reading) (cs : List Char) : Option Reading :=
  if endsTime cs then some r
  else do
    let (colons, rest) := match cs with
      | ':' :: rest => (true, rest)
      | _ => (false, cs)
    let (minute, rest) ← number? 2 0 rest
    readSeconds? { r with minute } colons rest

/-- Read a time of day. A time zone alone is midnight. -/
def read? (cs : List Char) : Option Reading :=
  if cs.length < 2 then none
  else if endsTime cs then some {}
  else do
    let (hour, rest) ← number? 2 0 cs
    readMinutes? { hour } rest

/-- The instant at which the clock reads so on a date. -/
def on (r : Reading) (date : Date) : Except Fault Instant :=
  if r = { hour := 24 } then
    match date.addDays? 1 with
    | some next => .ok (Instant.ofDate next)
    | none => .error .outside
  else
    match TimeOfDay.of? r.hour r.minute r.second r.microsecond with
    | some time => .ok ⟨date, time⟩
    | none => .error .invalid

end Reading

/-! ### Instants -/

/-- Read an instant. -/
def parse (s : String) : Except Fault Instant :=
  let cs := s.toList
  if cs.all (·.toNat < 128) then
    match DateForm.read? cs with
    | none => .error .invalid
    | some (form, rest) => do
      let date ← form.resolve
      match rest with
      | [] => pure (Instant.ofDate date)
      | _ :: rest =>
        match Reading.read? rest with
        | some r => r.on date
        | none => throw .invalid
  else .error .invalid

end WikiDates.Iso8601
