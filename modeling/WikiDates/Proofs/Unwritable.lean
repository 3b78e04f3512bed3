import WikiDates.Proofs.Calendar.Week
import WikiDates.Proofs.Locale.Known
import WikiDates.Proofs.Pattern.Concatenation
import WikiDates.Proofs.Writable

/-!
# Fields that cannot be written

    pattern ──parse──▶ items ──first that cannot be written──▶ failure

A date pattern is checked by its letters and widths. That leaves fields that cannot be written, some
of them never and some not everywhere: a letter without a rule, a fraction of the second with too
many places, a week at the end of the calendar, and a period of the day without a name.
`Format.Unwritable` lists them for the known locales, each with its failure.

`Instant.accepted_pattern_is_written_iff` says that nothing else keeps a pattern from being written.
-/

namespace WikiDates

open Results

/-! ### The last week -/

namespace Calendar.WeekRule

/-- The date lies in the last week of the calendar, where a single day makes a week: a week that the
next year may claim. -/
def IsInLastWeek (rule : WeekRule) (d : Date) : Prop :=
  rule.minDays = 1 ∧ lastDay ≤ d.dayNumber + rule.daysBefore 4

theorem IsInLastWeek.isNearNewYear_iff {rule : WeekRule} {d : Date} (h : rule.IsInLastWeek d) :
    IsNearNewYear d ↔ 25 < d.day := by
  have hlt := rule.daysBefore_lt 4
  have hmonth : d.month = 12 := Date.month_eq_last (by have := h.2; omega)
  simp [IsNearNewYear, hmonth]

theorem weekYear_eq_error_iff {rule : WeekRule} {d : Date} {year : Nat} :
    rule.weekYear d = .error year ↔ IsNearNewYear d ∧ rule.weekOfYear d = .error year := by
  unfold weekYear IsNearNewYear
  split
  · next h => simp [map_eq_error_iff, h]
  · next h =>
      split
      · next h' => simp [map_eq_error_iff, h']
      · next h' => simp [h, h']

end Calendar.WeekRule

namespace Locale.Conventions

variable {c : Conventions} (hc : c.IsComplete) {d : Date} {year : Nat}

include hc

theorem IsComplete.weekOfYear_eq_error_iff :
    c.week.weekOfYear d = .error year ↔ c.week.IsInLastWeek d ∧ year = 10000 := by
  have hfirst : ¬ c.week.IsBeforeFirst d := fun h => absurd h.1 (Nat.not_lt_of_le hc.firstWeek)
  have hlast : c.week.IsBeyondLast d ↔ c.week.IsInLastWeek d := and_congr_left' hc.lastWeek
  simp only [Calendar.WeekRule.weekOfYear_eq_error_iff, hfirst, hlast, false_and, false_or]

theorem IsComplete.weekYear_eq_error_iff :
    c.week.weekYear d = .error year ↔
      c.week.IsInLastWeek d ∧ 25 < d.day ∧ year = 10000 := by
  rw [Calendar.WeekRule.weekYear_eq_error_iff, hc.weekOfYear_eq_error_iff, and_left_comm]
  exact and_congr_right fun h => and_congr_left' h.isNearNewYear_iff

end Locale.Conventions

namespace Format

/-! ### Failures of a field -/

/-- The fields that cannot be written for an instant in a locale, with their failures. -/
inductive Unwritable (l : Locale) (x : Instant) : (letter : Char) → (width : Nat) → Failure → Prop
  where
  /-- There is no rule for the letter. -/
  | noRule (width : Nat) : Unwritable l x 'g' width (.unsupportedField 'g')
  /-- The power of ten of the places is too large. -/
  | tooFine {width : Nat} (hwidth : 308 < width) : Unwritable l x 'S' width .notFinite
  /-- The number of the week asks for the next year. -/
  | week (width : Nat) (hweek : l.conventions.week.IsInLastWeek x.date) :
      Unwritable l x 'w' width (.yearOutside 10000)
  /-- The year of the week asks for the next year. -/
  | weekYear (width : Nat) (hweek : l.conventions.week.IsInLastWeek x.date)
      (hday : 25 < x.date.day) : Unwritable l x 'Y' width (.yearOutside 10000)
  /-- The period of the day has no name that stands alone. -/
  | unnamed {width : Nat} {period : Locale.DayPeriod}
      (hperiod : l.conventions.periodAt? x.time.secondOfDay = some period)
      (hname : period.standalone.ofWidth width = none) :
      Unwritable l x 'b' width (.unnamedPeriod period.id l.name)

theorem weeks_eq_error_iff {count : Except Nat Nat} {failure : Failure} :
    weeks count = .error failure ↔ ∃ year, count = .error year ∧ .yearOutside year = failure :=
  mapError_eq_error_iff

theorem fraction_eq_error_iff {width microsecond : Nat} {failure : Failure}
    (h : microsecond < Calendar.microsPerSecond) :
    fraction width microsecond = .error failure ↔ 308 < width ∧ failure = .notFinite := by
  have hkind : ∀ f, fraction width microsecond = .error f → f = .notFinite := by
    intro f hf
    unfold fraction at hf
    dsimp only at hf
    split at hf
    · cases hf
    · cases hf
      rfl
  constructor
  · intro hf
    refine ⟨Nat.lt_of_not_le fun hwidth => ?_, hkind failure hf⟩
    obtain ⟨text, htext⟩ := (exists_fraction_iff h).mpr hwidth
    cases htext.symm.trans hf
  · rintro ⟨hwidth, rfl⟩
    have hne : ∀ text, fraction width microsecond ≠ .ok text := fun text htext =>
      Nat.not_le_of_lt hwidth ((exists_fraction_iff h).mp ⟨text, htext⟩)
    obtain ⟨f, hf⟩ := eq_error_of_ne_ok hne
    rw [hf, hkind f hf]

theorem secondOfDay_lt (t : TimeOfDay) : t.secondOfDay < 86400 := by
  have := t.micros_lt
  unfold TimeOfDay.secondOfDay Calendar.microsPerSecond
  omega

section

variable {l : Locale} (hl : l.conventions.IsComplete) {x : Instant} {width : Nat}
  {forms : Locale.DayPeriod → Locale.Forms (Option String)} {failure : Failure}

include hl

/-- Every second lies in a period, so what fails is a period without a name. -/
theorem periodName_eq_error_iff {t : TimeOfDay} :
    periodName l t width forms = .error failure ↔
      ∃ period, l.conventions.periodAt? t.secondOfDay = some period ∧
        (forms period).ofWidth width = none ∧ failure = .unnamedPeriod period.id l.name := by
  obtain ⟨period, -, hperiod⟩ := hl.period _ (secondOfDay_lt t)
  unfold periodName
  rw [hperiod]
  dsimp only
  constructor
  · intro h
    split at h
    · cases h
    · next hname =>
        cases h
        exact ⟨period, rfl, hname, rfl⟩
  · rintro ⟨period', hsame, hname, rfl⟩
    cases hsame
    rw [hname]

/-- The names within a time are complete. -/
theorem periodName_inTime_ne_error {t : TimeOfDay} :
    periodName l t width (·.inTime) ≠ .error failure := by
  intro h
  obtain ⟨period, hmem, hperiod⟩ := hl.period _ (secondOfDay_lt t)
  obtain ⟨period', hperiod', hname, -⟩ := (periodName_eq_error_iff hl).mp h
  cases hperiod.symm.trans hperiod'
  have hsome := hl.named period hmem width
  rw [hname] at hsome
  cases hsome

theorem unwritable_of_field {letter : Char} (hletter : Pattern.isFieldLetter letter = true)
    (h : field l x letter width = .error failure) : Unwritable l x letter width failure := by
  unfold field at h
  dsimp only at h
  split at h
  -- The fields that are always written come first.
  all_goals try cases h
  all_goals try exact absurd h numberOrName_ne_error
  · obtain ⟨year, hyear, rfl⟩ := weeks_eq_error_iff.mp (map_eq_error_iff.mp h)
    obtain ⟨hweek, hday, rfl⟩ := hl.weekYear_eq_error_iff.mp hyear
    exact .weekYear width hweek hday
  · rcases bind_eq_error_iff.mp h with h | ⟨week, -, h⟩
    · obtain ⟨year, hyear, rfl⟩ := weeks_eq_error_iff.mp h
      obtain ⟨hweek, rfl⟩ := hl.weekOfYear_eq_error_iff.mp hyear
      exact .week width hweek
    · cases h
  · obtain ⟨period, hperiod, hname, rfl⟩ := (periodName_eq_error_iff hl).mp h
    exact .unnamed hperiod hname
  · exact absurd h (periodName_inTime_ne_error hl)
  · obtain ⟨hwidth, rfl⟩ := (fraction_eq_error_iff (Nat.mod_lt _ (by decide))).mp h
    exact .tooFine hwidth
  · -- Of the letters without a rule, the check lets one pass.
    unfold Pattern.isFieldLetter Pattern.widths? at hletter
    split at hletter
    all_goals first | exact .noRule width | contradiction

theorem field_of_unwritable {letter : Char} (h : Unwritable l x letter width failure) :
    field l x letter width = .error failure := by
  cases h with
  | noRule => rfl
  | tooFine hwidth =>
      exact (fraction_eq_error_iff (Nat.mod_lt _ (by decide))).mpr ⟨hwidth, rfl⟩
  | week _ hweek =>
      have hyear := hl.weekOfYear_eq_error_iff.mpr ⟨hweek, rfl⟩
      exact bind_eq_error_iff.mpr (Or.inl (weeks_eq_error_iff.mpr ⟨_, hyear, rfl⟩))
  | weekYear _ hweek hday =>
      have hyear := hl.weekYear_eq_error_iff.mpr ⟨hweek, hday, rfl⟩
      exact map_eq_error_iff.mpr (weeks_eq_error_iff.mpr ⟨_, hyear, rfl⟩)
  | unnamed hperiod hname =>
      exact (periodName_eq_error_iff hl).mpr ⟨_, hperiod, hname, rfl⟩

theorem field_eq_error_iff {letter : Char} (hletter : Pattern.isFieldLetter letter = true) :
    field l x letter width = .error failure ↔ Unwritable l x letter width failure :=
  ⟨unwritable_of_field hl hletter, field_of_unwritable hl⟩

end

/-- An item that cannot be written for an instant in a locale, with its failure. -/
def UnwritableItem (l : Locale) (x : Instant) : Pattern.Item → Failure → Prop
  | .literal _, _ => False
  | .field letter width, failure => Unwritable l x letter width failure

end Format

/-! ### Accepted patterns -/

theorem Pattern.isFieldLetter_of_parse {s : String} {p : Pattern} (h : parse s = .ok p)
    {letter : Char} {width : Nat} (hmem : .field letter width ∈ p) :
    isFieldLetter letter = true := by
  obtain ⟨-, rfl⟩ := parse_eq_ok_iff.mp h
  exact (field_of_mem_items hmem).1

theorem Format.item_eq_error_iff {s name : String} {p : Pattern} {l : Locale}
    (hp : Pattern.parse s = .ok p) (hl : Locale.parse name = .ok l) {x : Instant}
    {i : Pattern.Item} (hi : i ∈ p) {failure : Failure} :
    item l x i = .error failure ↔ UnwritableItem l x i failure := by
  cases i with
  | literal c => exact iff_of_false (by simp [item]) id
  | field letter width =>
      have hletter := Pattern.isFieldLetter_of_parse hp hi
      exact map_eq_error_iff.trans (field_eq_error_iff (Locale.isComplete_of_parse hl) hletter)

theorem Format.exists_item_iff_writable {s name : String} {p : Pattern} {l : Locale}
    (hp : Pattern.parse s = .ok p) (hl : Locale.parse name = .ok l) {x : Instant}
    {i : Pattern.Item} (hi : i ∈ p) :
    (∃ text, item l x i = .ok text) ↔ ∀ failure, ¬ UnwritableItem l x i failure := by
  simp only [← item_eq_error_iff hp hl hi]
  cases item l x i with
  | ok text => simp
  | error failure => simp

namespace Instant

/-- **An accepted pattern is written unless it has a field that cannot be.** In every known locale
and for every instant, a date pattern is written exactly if it has no such field, and fails with the
failure of the first of them if it has. -/
theorem accepted_pattern_is_written_iff {pattern locale : String} {p : Pattern} {l : Locale}
    (hp : Pattern.parse pattern = .ok p) (hl : Locale.parse locale = .ok l) (x : Instant) :
    ((∃ text, x.format pattern locale = .ok text) ↔
      ∀ i ∈ p, ∀ failure, ¬ Format.UnwritableItem l x i failure) ∧
    ∀ failure, x.format pattern locale = .error failure ↔
      ∃ before i after, p = before ++ i :: after ∧ Format.UnwritableItem l x i failure ∧
        ∀ i' ∈ before, ∀ failure', ¬ Format.UnwritableItem l x i' failure' := by
  have hformat : x.format pattern locale = p.format l x := by
    rw [format_of_parse hp, hl]
    rfl
  rw [hformat]
  constructor
  · rw [Pattern.format, exists_map_eq_ok_iff, exists_mapM_eq_ok_iff]
    exact forall₂_congr fun i hi => Format.exists_item_iff_writable hp hl hi
  · intro failure
    rw [Pattern.format, map_eq_error_iff, mapM_eq_error_iff]
    refine exists_congr fun before => exists_congr fun i => exists_congr fun after => ?_
    refine and_congr_right fun h => ?_
    have hi : i ∈ p := h ▸ List.mem_append_right before List.mem_cons_self
    have hbefore : ∀ i' ∈ before, i' ∈ p := fun i' hi' => h ▸ List.mem_append_left _ hi'
    exact and_congr (Format.item_eq_error_iff hp hl hi)
      (forall₂_congr fun i' hi' => Format.exists_item_iff_writable hp hl (hbefore i' hi'))

/-- The letter without a rule passes the check and then fails. -/
theorem letter_without_rule_is_accepted :
    let x : Instant :=
      ⟨⟨2011, 9, 8, by decide, by decide, by decide, by decide, by decide, by decide⟩,
        .ofFields 9 54 55 0⟩
    Pattern.parse "g" = .ok [.field 'g' 1] ∧ (Locale.parse "en_US").isOk = true ∧
      x.format "g" "en_US" = .error (.unsupportedField 'g') := by
  intro x
  have hp : Pattern.parse "g" = .ok [.field 'g' 1] := by decide +kernel
  have hlocale : (Locale.parse "en_US").isOk = true := by decide +kernel
  obtain ⟨l, hl⟩ := exists_of_isOk hlocale
  refine ⟨hp, hlocale, ((accepted_pattern_is_written_iff hp hl x).2 _).mpr ?_⟩
  exact ⟨[], .field 'g' 1, [], rfl, .noRule 1, by simp⟩

end Instant
end WikiDates
