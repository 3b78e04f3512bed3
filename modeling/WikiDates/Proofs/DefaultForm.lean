import Mathlib.Data.List.Basic
import WikiDates.Calendar.Iso8601
import WikiDates.Proofs.AcceptedSettings
import WikiDates.Proofs.Calendar.DayNumber
import WikiDates.Proofs.Override
import WikiDates.Proofs.Printing
import WikiDates.Rendering

/-!
# The default formats

    option text ──▶ instant ──shown──▶ fields ──chars──▶ text ──read?──▶ fields

A default format shows the day, the month and the year of an instant, and with a time the hour and
the minute. Each number has as many digits as its field is wide, so the text can be read from the
left, and nothing of the fields is lost.

`render_default_reads_back` says this of every rendering in a default format.
-/

namespace WikiDates

open Results

/-! ### Numerals of a fixed width -/

namespace Iso8601

theorem number?_cons {c : Char} {d : Nat} (h : Text.asciiDigitValue? c = some d)
    (width value : Nat) (cs : List Char) :
    number? (width + 1) value (c :: cs) = number? width (10 * value + d) cs := by
  rw [number?, h, Option.bind_some]

/-- The last digits are read behind the first ones. -/
theorem number?_add (m k value : Nat) (cs : List Char) :
    number? (m + k) value cs = (number? m value cs).bind fun (n, rest) => number? k n rest := by
  induction m generalizing value cs with
  | zero => rw [Nat.zero_add, number?, Option.bind_some]
  | succ m ih =>
      rw [Nat.add_right_comm]
      cases cs with
      | nil => rfl
      | cons c cs =>
          -- Both sides read the first digit; the value is passed on to the rest.
          rw [number?, number?, Option.bind_assoc]
          exact congrArg _ (funext fun d => ih _ _)

end Iso8601

namespace Numeral

/-- The characters of a number, with at least `width` digits. -/
def digits (width n : Nat) : List Char := padded width (decimal n)

theorem toList_zeroPadded (width n : Nat) : (zeroPadded width n).toList = digits width n :=
  String.toList_ofList

theorem asciiDigitValue?_digitChar {d : Nat} (h : d < 10) :
    Text.asciiDigitValue? d.digitChar = some d := by
  revert d
  decide

theorem length_digits {width n : Nat} (hwidth : 0 < width) (h : n < 10 ^ width) :
    (digits width n).length = width := by
  unfold digits
  rw [length_padded]
  exact Nat.max_eq_left ((Nat.length_toDigits_le_iff (by decide) hwidth).mpr h)

/-- The last digit stands behind the other ones, zeros in front included. -/
theorem digits_succ (width n : Nat) :
    digits (width + 2) n = digits (width + 1) (n / 10) ++ [(n % 10).digitChar] := by
  unfold digits
  rcases Nat.lt_or_ge n 10 with hlt | hge
  · rw [Nat.div_eq_of_lt hlt, Nat.mod_eq_of_lt hlt, decimal_of_lt hlt, decimal_of_lt (by decide)]
    simp [padded, List.replicate_succ']
  · rw [decimal_of_le hge]
    simp [padded]

/-- A number that fits a width is read back, whatever stands behind it. -/
theorem number?_digits {width n : Nat} (hwidth : 0 < width) (h : n < 10 ^ width)
    (rest : List Char) : Iso8601.number? width 0 (digits width n ++ rest) = some (n, rest) := by
  induction width generalizing n rest with
  | zero => cases hwidth
  | succ width ih =>
      cases width with
      | zero =>
          have hdigit : digits 1 n = [n.digitChar] := by rw [digits, decimal_of_lt h]; rfl
          rw [hdigit, List.singleton_append,
            Iso8601.number?_cons (asciiDigitValue?_digitChar h), Nat.mul_zero, Nat.zero_add]
          rfl
      | succ width =>
          -- The number in front of the last digit has a digit less.
          have hfront : n / 10 < 10 ^ (width + 1) := by
            rw [Nat.pow_succ] at h
            omega
          have hlast : n % 10 < 10 := Nat.mod_lt n (by decide)
          rw [digits_succ, List.append_assoc, Iso8601.number?_add, ih (Nat.succ_pos _) hfront,
            Option.bind_some]
          dsimp only
          rw [List.singleton_append, Iso8601.number?_cons (asciiDigitValue?_digitChar hlast),
            Nat.div_add_mod]
          rfl

end Numeral

/-! ### What is shown -/

/-- What a text in a default format shows. -/
structure Shown where
  /-- The day of the month. -/
  day : Nat
  /-- The month. -/
  month : Nat
  /-- The year. -/
  year : Nat
  /-- The hour and the minute, in the format with a time. -/
  clock : Option (Nat × Nat)
  deriving DecidableEq, Repr

namespace Shown

/-- Read `dd/MM/yyyy` or `dd/MM/yyyy HH:mm`, with an ASCII digit for every letter, and nothing else.
-/
def read? (cs : List Char) : Option Shown := do
  let (day, cs) ← Iso8601.number? 2 0 cs
  let cs ← ['/'].isPrefixOf? cs
  let (month, cs) ← Iso8601.number? 2 0 cs
  let cs ← ['/'].isPrefixOf? cs
  let (year, cs) ← Iso8601.number? 4 0 cs
  if cs.isEmpty then some ⟨day, month, year, none⟩
  else do
    let cs ← [' '].isPrefixOf? cs
    let (hour, cs) ← Iso8601.number? 2 0 cs
    let cs ← [':'].isPrefixOf? cs
    let (minute, cs) ← Iso8601.number? 2 0 cs
    if cs.isEmpty then some ⟨day, month, year, some (hour, minute)⟩ else none

/-- The text of the hour and the minute, behind that of the date. -/
def clockChars : Option (Nat × Nat) → List Char
  | none => []
  | some (hour, minute) => ' ' :: (Numeral.digits 2 hour ++ ':' :: Numeral.digits 2 minute)

/-- The text that shows the fields. -/
def chars (s : Shown) : List Char :=
  Numeral.digits 2 s.day ++ '/' ::
    (Numeral.digits 2 s.month ++ '/' :: (Numeral.digits 4 s.year ++ clockChars s.clock))

/-- No field needs more digits than the formats give it. -/
structure Fits (s : Shown) : Prop where
  day : s.day < 10 ^ 2
  month : s.month < 10 ^ 2
  year : s.year < 10 ^ 4
  clock : ∀ time ∈ s.clock, time.1 < 10 ^ 2 ∧ time.2 < 10 ^ 2

theorem length_clockChars {s : Shown} (h : s.Fits) :
    (clockChars s.clock).length = if s.clock.isSome then 6 else 0 := by
  cases hclock : s.clock with
  | none => rfl
  | some time =>
      obtain ⟨hhour, hminute⟩ := h.clock time hclock
      simp [clockChars, Numeral.length_digits _ hhour, Numeral.length_digits _ hminute]

theorem length_chars {s : Shown} (h : s.Fits) :
    s.chars.length = if s.clock.isSome then 16 else 10 := by
  simp only [chars, List.length_append, List.length_cons, length_clockChars h,
    Numeral.length_digits (by decide) h.day, Numeral.length_digits (by decide) h.month,
    Numeral.length_digits (by decide) h.year]
  split <;> rfl

theorem skip (c : Char) (cs : List Char) : [c].isPrefixOf? (c :: cs) = some cs := by
  simp [List.isPrefixOf?]

/-- The fields are read back from the text that shows them. -/
theorem read?_chars {s : Shown} (h : s.Fits) : read? s.chars = some s := by
  obtain ⟨day, month, year, clock⟩ := s
  obtain ⟨hday, hmonth, hyear, hclock⟩ := h
  dsimp only at hday hmonth hyear hclock
  simp only [read?, chars, skip, Numeral.number?_digits (by decide) hday,
    Numeral.number?_digits (by decide) hmonth, Numeral.number?_digits (by decide) hyear,
    Option.bind_eq_bind, Option.bind_some]
  cases clock with
  | none => rfl
  | some time =>
      obtain ⟨hour, minute⟩ := time
      obtain ⟨hhour, hminute⟩ := hclock _ rfl
      have hlast := Numeral.number?_digits (by decide) hminute []
      rw [List.append_nil] at hlast
      simp [clockChars, skip, Numeral.number?_digits (by decide) hhour, hlast]

end Shown

namespace Instant

/-- The fields of an instant that a default format shows, with or without a time. -/
def shown (withTime : Bool) (x : Instant) : Shown where
  day := x.date.day
  month := x.date.month
  year := x.date.year
  clock := if withTime then some (x.time.hour, x.time.minute) else none

theorem fits_shown (withTime : Bool) (x : Instant) : (x.shown withTime).Fits where
  day := show x.date.day < 100 by
    have := x.date.day_le
    have := Calendar.daysInMonth_le x.date.year x.date.month
    omega
  month := show x.date.month < 100 by
    have := x.date.month_le
    omega
  year := show x.date.year < 10000 by
    have := x.date.year_le
    omega
  clock := by
    intro time htime
    unfold shown at htime
    split at htime
    · cases htime
      have hmicros := x.time.micros_lt
      have hhour : x.time.hour < 24 := by
        unfold TimeOfDay.hour Calendar.microsPerHour
        omega
      have hminute : x.time.minute < 60 := Nat.mod_lt _ (by decide)
      dsimp only
      omega
    · cases htime

/-- Two instants are shown alike if they have the day and, with a time, the minute in common. -/
theorem shown_eq_iff {withTime : Bool} {x y : Instant} :
    x.shown withTime = y.shown withTime ↔
      (x.date.day = y.date.day ∧ x.date.month = y.date.month ∧ x.date.year = y.date.year) ∧
        (withTime = true → x.time.hour = y.time.hour ∧ x.time.minute = y.time.minute) := by
  cases withTime <;> simp [shown, and_assoc]

end Instant

/-! ### Writing in a default format -/

/-- The default format, with or without a time, as it is read. -/
def Pattern.defaultForm (withTime : Bool) : Pattern :=
  [.field 'd' 2, .literal '/', .field 'M' 2, .literal '/', .field 'y' 4] ++
    if withTime then [.literal ' ', .field 'H' 2, .literal ':', .field 'm' 2] else []

theorem Settings.readPattern_default {o : Options} (h : o.format = none) :
    readPattern (formatFor {} o) = .ok (.defaultForm o.showTime) := by
  have hdate : readPattern (.text "dd/MM/yyyy") = .ok (.defaultForm false) :=
    mapError_eq_ok_iff.mpr (by decide +kernel)
  have hdatetime : readPattern (.text "dd/MM/yyyy HH:mm") = .ok (.defaultForm true) :=
    mapError_eq_ok_iff.mpr (by decide +kernel)
  unfold formatFor
  rw [h]
  cases o.showTime with
  | false => exact hdate
  | true => exact hdatetime

theorem Format.map_toList_number (width n : Nat) :
    (number width n).map String.toList = .ok (Numeral.digits width n) :=
  congrArg Except.ok (Numeral.toList_zeroPadded width n)

/-- A default format writes the fields that it shows, and in every locale alike. -/
theorem Pattern.format_default (withTime : Bool) (l : Locale) (x : Instant) :
    (Pattern.defaultForm withTime).format l x = .ok (String.ofList (x.shown withTime).chars) := by
  -- All fields are numbers, so the locale has no part in them.
  have hday : Format.item l x (.field 'd' 2) = .ok (Numeral.digits 2 x.date.day) :=
    Format.map_toList_number 2 x.date.day
  have hmonth : Format.item l x (.field 'M' 2) = .ok (Numeral.digits 2 x.date.month) :=
    Format.map_toList_number 2 x.date.month
  have hyear : Format.item l x (.field 'y' 4) = .ok (Numeral.digits 4 x.date.year) :=
    Format.map_toList_number 4 x.date.year
  have hhour : Format.item l x (.field 'H' 2) = .ok (Numeral.digits 2 x.time.hour) :=
    Format.map_toList_number 2 x.time.hour
  have hminute : Format.item l x (.field 'm' 2) = .ok (Numeral.digits 2 x.time.minute) :=
    Format.map_toList_number 2 x.time.minute
  have hliteral : ∀ c, Format.item l x (.literal c) = .ok [c] := fun _ => rfl
  unfold Pattern.format Pattern.defaultForm
  cases withTime with
  | false =>
      simp [hday, hmonth, hyear, hliteral, Except.map, bind, Except.bind, pure, Except.pure,
        Instant.shown, Shown.chars, Shown.clockChars]
  | true =>
      simp [hday, hmonth, hyear, hhour, hminute, hliteral, Except.map, bind, Except.bind, pure,
        Except.pure, Instant.shown, Shown.chars, Shown.clockChars]

/-- With the defaults, an option text without a format is rendered as the fields of the instant that
its options lead to. -/
theorem result_render_default {argument : Value} {x y : Instant} {text : Option String}
    {o : Options} (hargument : Settings.ofArgument argument = .ok {})
    (hparse : Options.parse text = .ok o) (hformat : o.format = none) (happly : o.apply x = .ok y) :
    (render argument (.instant x) text).result =
      .ok (String.ofList (y.shown o.showTime).chars) := by
  obtain ⟨l, hlocale⟩ := Settings.isUsable_default.locale
  have hrender : (render argument (.instant x) text).result =
      Settings.write (.instant y) (Settings.formatFor {} o) ({} : Settings).locale := by
    unfold render
    rw [hargument]
    show (Options.parse text >>= fun o => o.apply x >>= Settings.format {} o) = _
    rw [hparse]
    show (o.apply x >>= Settings.format {} o) = _
    rw [happly]
    rfl
  rw [hrender, Settings.write, Settings.readPattern_default hformat]
  show (Settings.readLocale ({} : Settings).locale >>= fun l =>
    (Pattern.defaultForm o.showTime).format l y) = _
  rw [hlocale]
  exact Pattern.format_default o.showTime l y

/-- **A default format loses nothing of what it shows.** With the defaults, an option text without a
format is rendered as ten characters, or as sixteen with a time, from which the day, the month and
the year of the instant that its options lead to are read back, and with a time the hour and the
minute. So two such texts, both with a time or both without, are rendered alike exactly if these
fields are the same. -/
theorem render_default_reads_back {argument : Value} {x y : Instant} {text : Option String}
    {o : Options} (hargument : Settings.ofArgument argument = .ok {})
    (hparse : Options.parse text = .ok o) (hformat : o.format = none) (happly : o.apply x = .ok y) :
    (∃ out, (render argument (.instant x) text).result = .ok out ∧
      out.length = (if o.showTime then 16 else 10) ∧
      Shown.read? out.toList = some ⟨y.date.day, y.date.month, y.date.year,
        if o.showTime then some (y.time.hour, y.time.minute) else none⟩) ∧
    ∀ argument' x' text' o' y', Settings.ofArgument argument' = .ok {} →
      Options.parse text' = .ok o' → o'.format = none → o'.apply x' = .ok y' →
      o.showTime = o'.showTime →
      ((render argument (.instant x) text).result = (render argument' (.instant x') text').result ↔
        (y.date.day = y'.date.day ∧ y.date.month = y'.date.month ∧ y.date.year = y'.date.year) ∧
          (o.showTime = true → y.time.hour = y'.time.hour ∧ y.time.minute = y'.time.minute)) := by
  have hout := result_render_default hargument hparse hformat happly
  refine ⟨⟨_, hout, ?_, ?_⟩, ?_⟩
  · rw [String.length_ofList, Shown.length_chars (y.fits_shown o.showTime)]
    cases o.showTime <;> rfl
  · rw [String.toList_ofList]
    exact Shown.read?_chars (y.fits_shown o.showTime)
  · intro argument' x' text' o' y' hargument' hparse' hformat' happly' htime
    rw [hout, result_render_default hargument' hparse' hformat' happly', ← htime, Except.ok.injEq,
      String.ofList_inj, ← Instant.shown_eq_iff]
    constructor
    · intro h
      -- Equal texts are read alike.
      have hread := congrArg Shown.read? h
      rw [Shown.read?_chars (y.fits_shown _), Shown.read?_chars (y'.fits_shown _)] at hread
      exact Option.some.inj hread
    · exact congrArg Shown.chars

/-- The first instant is shown with all its zeros, and the second that follows it is shown alike. -/
theorem default_form_of_first_second :
    (∃ out, (render .null (.instant .first) (some "-t")).result = .ok out ∧ out.length = 16 ∧
      Shown.read? out.toList = some ⟨1, 1, 1, some (0, 0)⟩) ∧
    (render .null (.instant .first) (some "-t")).result =
      (render .null (.instant ⟨Instant.first.date, .ofFields 0 0 1 0⟩) (some "-t")).result := by
  have h := @render_default_reads_back .null .first .first (some "-t") { showTime := true }
    rfl (by rfl) rfl rfl
  refine ⟨h.1, (h.2 .null _ (some "-t") { showTime := true } _ rfl (by rfl) rfl rfl rfl).mpr ?_⟩
  exact ⟨⟨rfl, rfl, rfl⟩, fun _ => by decide⟩

end WikiDates
