import WikiDates.Format
import WikiDates.Proofs.Calendar.DayNumber
import WikiDates.Proofs.Number.Binary64
import WikiDates.Proofs.Results

/-!
# Which fields can be written

Most fields of a date pattern can be written for every instant. `Format.IsWritable` says of the
others when they can: a fraction of the second up to a width, a week unless it lies in a year
outside the calendar, and a period of the day if the locale has a name for it. One field letter has
no rule at all.

`Pattern.exists_format_iff` says that a pattern is written exactly if all its fields are writable.
-/

namespace WikiDates

open Results

/-! ### Weeks -/

namespace Calendar.WeekRule

/-- The week of a date lies in a year of the calendar. -/
def IsCountable (rule : WeekRule) (d : Date) : Prop :=
  (d.year = firstYear → rule.weekNumber d.dayOfYear d.weekday ≠ 0) ∧
    (d.year = lastYear → rule.weekNumber d.dayOfYear d.weekday ≤ 52)

theorem exists_weekOfYear_iff {rule : WeekRule} {d : Date} :
    (∃ week, rule.weekOfYear d = .ok week) ↔ rule.IsCountable d := by
  unfold weekOfYear IsCountable
  generalize rule.weekNumber d.dayOfYear d.weekday = week
  have hyears : firstYear ≠ lastYear := by decide
  dsimp only
  split
  · next hzero =>
      split
      · next hfirst => simp [hzero, hfirst]
      · next hfirst => simp [hzero, hfirst]
  · next hzero =>
      split
      · next hlarge =>
          split
          · next hlast => simp [hlast, hlarge]
          · next hlast =>
              split <;> simp [hzero, hlast]
      · next hlarge => simp [hzero, Nat.le_of_not_lt hlarge]

/-- The days that may lie in a week of another year. -/
def IsNearNewYear (d : Date) : Prop := d.month = 1 ∧ d.day < 7 ∨ d.month = 12 ∧ 25 < d.day

theorem exists_weekYear_iff {rule : WeekRule} {d : Date} :
    (∃ year, rule.weekYear d = .ok year) ↔ (IsNearNewYear d → rule.IsCountable d) := by
  unfold weekYear IsNearNewYear
  split
  · next h => simp [exists_map_eq_ok_iff, exists_weekOfYear_iff, h]
  · next h =>
      split
      · next h' => simp [exists_map_eq_ok_iff, exists_weekOfYear_iff, h']
      · next h' => simp [h, h']

end Calendar.WeekRule

namespace Format

/-! ### Fractions of the second -/

/-- A fraction of the second can be written while the power of ten that it is scaled by has a
nearest double-precision number. -/
theorem exists_fraction_iff {width microsecond : Nat}
    (h : microsecond < Calendar.microsPerSecond) :
    (∃ text, fraction width microsecond = .ok text) ↔ width ≤ 308 := by
  unfold fraction
  dsimp only
  rcases Nat.lt_or_ge 308 width with hwide | hnarrow
  · rw [if_pos hwide]
    exact iff_of_false (by simp) (Nat.not_le_of_lt hwide)
  · have hlarge : 10 ^ 308 < Binary64.limit := by decide +kernel
    have hpower : 10 ^ width ≤ 10 ^ 308 := pow_le_pow_right₀ (by decide) hnarrow
    obtain ⟨scale, hscale, hfinite⟩ :=
      Binary64.exists_ofNat? (Nat.lt_of_le_of_lt hpower hlarge)
    -- The fraction and its rounding are at most 1, so only the power of ten may be too large.
    obtain ⟨value, hvalue, hone⟩ := Binary64.exists_ofRatio?_of_le (by decide) (Nat.le_of_lt h)
    obtain ⟨rounded, hrounded, hone⟩ := Binary64.exists_roundedTo? hone width
    obtain ⟨product, hproduct⟩ := Binary64.exists_mul? hone hfinite
    have hscaled : (do
        let scale ← Binary64.ofNat? (Nat.pow 10 width)
        let value ← Binary64.ofRatio? microsecond Calendar.microsPerSecond
        let rounded ← value.roundedTo? width
        let product ← rounded.mul? scale
        pure product.floor) = some product.floor := by
      refine Option.bind_eq_some_iff.mpr ⟨scale, hscale, ?_⟩
      refine Option.bind_eq_some_iff.mpr ⟨value, hvalue, ?_⟩
      refine Option.bind_eq_some_iff.mpr ⟨rounded, hrounded, ?_⟩
      exact Option.bind_eq_some_iff.mpr ⟨product, hproduct, rfl⟩
    rw [if_neg (Nat.not_lt_of_le hnarrow), hscaled]
    exact iff_of_true ⟨_, rfl⟩ hnarrow

/-! ### Fields -/

/-- The locale has a name for the period of the day. -/
def IsNamedPeriod (locale : Locale) (t : TimeOfDay) (width : Nat)
    (forms : Locale.DayPeriod → Locale.Forms (Option String)) : Prop :=
  ∃ period, locale.conventions.periodAt? t.secondOfDay = some period ∧
    ((forms period).ofWidth width).isSome = true

theorem exists_periodName_iff {locale : Locale} {t : TimeOfDay} {width : Nat}
    {forms : Locale.DayPeriod → Locale.Forms (Option String)} :
    (∃ text, periodName locale t width forms = .ok text) ↔ IsNamedPeriod locale t width forms := by
  unfold periodName IsNamedPeriod
  cases locale.conventions.periodAt? t.secondOfDay with
  | none => simp
  | some period =>
      cases h : (forms period).ofWidth width with
      | none => simp [h]
      | some name => simp [h]

/-- A field can be written for an instant. -/
def IsWritable (locale : Locale) (x : Instant) (letter : Char) (width : Nat) : Prop :=
  match letter with
  | 'g' => False
  | 'S' => width ≤ 308
  | 'w' => locale.conventions.week.IsCountable x.date
  | 'Y' => Calendar.WeekRule.IsNearNewYear x.date → locale.conventions.week.IsCountable x.date
  | 'b' => IsNamedPeriod locale x.time width (·.standalone)
  | 'B' => IsNamedPeriod locale x.time width (·.inTime)
  | _ => Pattern.isFieldLetter letter = true

theorem exists_numberOrName (width n : Nat) (name : String) :
    ∃ text, numberOrName width n name = .ok text := by
  unfold numberOrName
  split
  · exact ⟨_, rfl⟩
  · exact ⟨_, rfl⟩

theorem exists_number (width n : Nat) : ∃ text, number width n = .ok text := ⟨_, rfl⟩

theorem exists_field_iff {locale : Locale} {x : Instant} {letter : Char} {width : Nat} :
    (∃ text, field locale x letter width = .ok text) ↔ IsWritable locale x letter width := by
  unfold field
  dsimp only
  split
  -- Most fields are always written; the others follow in the order of their rules.
  all_goals try exact iff_of_true ⟨_, rfl⟩ rfl
  all_goals try exact iff_of_true (exists_numberOrName ..) rfl
  · rw [exists_map_eq_ok_iff, weeks, exists_mapError_eq_ok_iff]
    exact Calendar.WeekRule.exists_weekYear_iff
  · rw [exists_bind_eq_ok_iff (exists_number width), weeks, exists_mapError_eq_ok_iff]
    exact Calendar.WeekRule.exists_weekOfYear_iff
  · exact exists_periodName_iff
  · exact exists_periodName_iff
  · exact exists_fraction_iff (Nat.mod_lt _ (by decide))
  · apply iff_of_false (by simp)
    unfold IsWritable Pattern.isFieldLetter Pattern.widths?
    split
    all_goals try contradiction
    · exact id
    · split
      all_goals simp_all

theorem isReported_of_weeks {count : Except Nat Nat} {failure : Failure}
    (h : weeks count = .error failure) : failure.isReported = false := by
  obtain ⟨year, -, rfl⟩ := mapError_eq_error_iff.mp h
  rfl

theorem isReported_of_periodName {locale : Locale} {t : TimeOfDay} {width : Nat}
    {forms : Locale.DayPeriod → Locale.Forms (Option String)} {failure : Failure}
    (h : periodName locale t width forms = .error failure) : failure.isReported = false := by
  unfold periodName at h
  split at h
  · cases h
    rfl
  · split at h
    · cases h
    · cases h
      rfl

theorem isReported_of_fraction {width microsecond : Nat} {failure : Failure}
    (h : fraction width microsecond = .error failure) : failure.isReported = false := by
  unfold fraction at h
  dsimp only at h
  split at h
  · cases h
  · cases h
    rfl

theorem numberOrName_ne_error {width n : Nat} {name : String} {failure : Failure} :
    numberOrName width n name ≠ .error failure := by
  obtain ⟨text, h⟩ := exists_numberOrName width n name
  rw [h]
  simp

/-- A field that cannot be written is not reported as anyone's fault. -/
theorem isReported_of_field {locale : Locale} {x : Instant} {letter : Char} {width : Nat}
    {failure : Failure} (h : field locale x letter width = .error failure) :
    failure.isReported = false := by
  unfold field at h
  dsimp only at h
  split at h
  -- The fields that are always written, and the one that never is, come first.
  all_goals try cases h
  all_goals try exact absurd h numberOrName_ne_error
  · exact isReported_of_weeks (map_eq_error_iff.mp h)
  · rcases bind_eq_error_iff.mp h with h | ⟨week, -, h⟩
    · exact isReported_of_weeks h
    · cases h
  · exact isReported_of_periodName h
  · exact isReported_of_periodName h
  · exact isReported_of_fraction h
  · rfl

/-! ### Items -/

/-- An item can be written for an instant. -/
def IsWritableItem (locale : Locale) (x : Instant) : Pattern.Item → Prop
  | .literal _ => True
  | .field letter width => IsWritable locale x letter width

theorem exists_item_iff {locale : Locale} {x : Instant} {i : Pattern.Item} :
    (∃ text, item locale x i = .ok text) ↔ IsWritableItem locale x i := by
  cases i with
  | literal c => exact iff_of_true ⟨_, rfl⟩ trivial
  | field letter width =>
      rw [item, exists_map_eq_ok_iff]
      exact exists_field_iff

theorem isReported_of_item {locale : Locale} {x : Instant} {i : Pattern.Item}
    {failure : Failure} (h : item locale x i = .error failure) :
    failure.isReported = false := by
  cases i with
  | literal c => cases h
  | field letter width => exact isReported_of_field (map_eq_error_iff.mp h)

end Format

/-! ### Patterns -/

theorem Failure.isMarkerFault_of_not_reported {failure : Failure}
    (h : failure.isReported = false) : failure.isMarkerFault = false := by
  unfold isReported at h
  split at h
  · cases h
  · exact h

namespace Pattern

/-- A pattern is written exactly if all its items can be. -/
theorem exists_format_iff {p : Pattern} {locale : Locale} {x : Instant} :
    (∃ text, p.format locale x = .ok text) ↔ ∀ i ∈ p, Format.IsWritableItem locale x i := by
  rw [format, exists_map_eq_ok_iff, exists_mapM_eq_ok_iff]
  simp only [Format.exists_item_iff]

/-- A pattern that cannot be written is not reported as anyone's fault. -/
theorem isReported_of_format {p : Pattern} {locale : Locale} {x : Instant} {failure : Failure}
    (h : p.format locale x = .error failure) : failure.isReported = false := by
  obtain ⟨i, -, hitem⟩ := exists_of_mapM_eq_error (map_eq_error_iff.mp h)
  exact Format.isReported_of_item hitem

/-- A pattern that cannot be written is not the fault of a marker. -/
theorem isMarkerFault_of_format {p : Pattern} {locale : Locale} {x : Instant} {failure : Failure}
    (h : p.format locale x = .error failure) : failure.isMarkerFault = false :=
  Failure.isMarkerFault_of_not_reported (isReported_of_format h)

end Pattern
end WikiDates
