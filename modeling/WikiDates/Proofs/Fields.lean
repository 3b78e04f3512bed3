import Mathlib.Logic.Function.Basic
import WikiDates.Proofs.Override

/-!
# Setting fields within their ranges

    Instant ◀──ext_field, exists_instant──▶ fields ──update──▶ fields

As long as every amount lies in the range of its unit, an override only writes into the fields of an
instant: nothing is carried, so every field holds the last value that was written into it, and the
fields that are not named stay as they are. For days the range ends at the 28th, which every month of
every year has.

Writing into the year or the month carries if the day of the month is too late for the month that
results. So either the day is not after the 28th at the start, or it is the first field of the date
that is written into (`Expression.SetsDayFirst`).

Instants and their fields are told by each other (`AreFields`), so `Instant.exists_overrideOne_of_inRange`
asks two things of one amount: that the updated fields are those of an instant, and that they have the
count that the amount leads to. `Instant.exists_override_of_inRange` follows by induction on the
expression: the day is never after the 28th when a year or a month comes.
-/

namespace WikiDates

open Calendar TimeOfDay

/-! ### Fields -/

namespace TimeUnit

/-- The least amount that a unit may be set to without carrying. -/
def least : TimeUnit → Nat
  | .year => 1
  | .day => 1
  | _ => 0

/-- The greatest amount that a unit may be set to without carrying. -/
def greatest : TimeUnit → Nat
  | .year => 9999
  | .month => 11
  | .day => 28
  | .hour => 23
  | .minute => 59
  | .second => 59
  | .millisecond => 999

/-- What an amount of a unit is in its field: months count from 1 there, and the smallest field holds
microseconds. -/
def fieldValue : TimeUnit → Nat → Nat
  | .month, n => n + 1
  | .millisecond, n => n * 1000
  | _, n => n

end TimeUnit

/-- The amount lies in the range of its unit. -/
def Assignment.IsInRange (a : Assignment) : Prop :=
  a.unit.least ≤ a.magnitude ∧ a.magnitude ≤ a.unit.greatest

instance (a : Assignment) : Decidable a.IsInRange := inferInstanceAs (Decidable (_ ∧ _))

/-- The field of an instant that a unit is set in. -/
def Instant.field (x : Instant) : TimeUnit → Nat
  | .year => x.date.year
  | .month => x.date.month
  | .day => x.date.day
  | .hour => x.time.hour
  | .minute => x.time.minute
  | .second => x.time.second
  | .millisecond => x.time.microsecond

/-- The values are those of the fields of an instant. -/
structure AreFields (f : TimeUnit → Nat) : Prop where
  year : 1 ≤ f .year ∧ f .year ≤ 9999
  month : 1 ≤ f .month ∧ f .month ≤ 12
  day : 1 ≤ f .day ∧ f .day ≤ daysInMonth (f .year) (f .month)
  hour : f .hour < 24
  minute : f .minute < 60
  second : f .second < 60
  microsecond : f .millisecond < 1000000

/-- The count that fields stand for. -/
def fieldCount (f : TimeUnit → Nat) : Int :=
  Instant.countOn (Calendar.dayNumber (f .year) (f .month) (f .day))
    (countMicros (f .hour) (f .minute) (f .second) (f .millisecond))

namespace Instant

theorem micros_eq_fieldCount (x : Instant) : (x.micros : Int) = fieldCount x.field := by
  rw [micros_eq_countOn, x.time.micros_eq_countMicros]
  rfl

/-- An instant is known by its fields. -/
theorem ext_field {x y : Instant} (h : x.field = y.field) : x = y := by
  apply micros_injective
  have hcount : (x.micros : Int) = y.micros := by
    rw [micros_eq_fieldCount, micros_eq_fieldCount, h]
  exact Int.ofNat.inj hcount

theorem areFields_field (x : Instant) : AreFields x.field where
  year := ⟨x.date.year_pos, x.date.year_le⟩
  month := ⟨x.date.month_pos, x.date.month_le⟩
  day := ⟨x.date.day_pos, x.date.day_le⟩
  hour := Nat.div_lt_of_lt_mul x.time.micros_lt
  minute := Nat.mod_lt _ (by decide)
  second := Nat.mod_lt _ (by decide)
  microsecond := Nat.mod_lt _ (by decide)

end Instant

theorem AreFields.exists_instant {f : TimeUnit → Nat} (h : AreFields f) :
    ∃ x : Instant, x.field = f := by
  obtain ⟨hyear, hmonth, hday, hhour, hminute, hsecond, hmicrosecond⟩ := h
  let d : Date := ⟨f .year, f .month, f .day, hyear.1, hyear.2, hmonth.1, hmonth.2, hday.1, hday.2⟩
  let t : TimeOfDay := ⟨countMicros (f .hour) (f .minute) (f .second) (f .millisecond), by
    simp only [countMicros, microsPerHour, microsPerMinute, microsPerSecond]
    omega⟩
  refine ⟨⟨d, t⟩, ?_⟩
  funext unit
  cases unit with
  | year | month | day => rfl
  | hour | minute | second | millisecond =>
      simp only [Instant.field, t, TimeOfDay.hour, TimeOfDay.minute, TimeOfDay.second,
        TimeOfDay.microsecond, countMicros, microsPerHour, microsPerMinute, microsPerSecond]
      omega

/-! ### One amount -/

namespace Instant

variable {x : Instant} {a : Assignment}

/-- A field may be updated within the range of its unit, unless it is the year or the month on a day
that not every month has. -/
theorem areFields_update (h : a.IsInRange)
    (hday : a.unit = .year ∨ a.unit = .month → x.date.day ≤ 28) :
    AreFields (Function.update x.field a.unit (a.unit.fieldValue a.magnitude)) := by
  obtain ⟨unit, v⟩ := a
  have hx := x.areFields_field
  have hle : v ≤ unit.greatest := h.2
  cases unit with
  | year =>
      have hfits := Nat.le_trans (hday (.inl rfl)) (daysInMonth_ge v x.date.month)
      exact { hx with year := h, day := ⟨x.date.day_pos, hfits⟩ }
  | month =>
      have hfits := Nat.le_trans (hday (.inr rfl)) (daysInMonth_ge x.date.year (v + 1))
      exact { hx with
        month := ⟨Nat.le_add_left 1 v, Nat.succ_le_succ hle⟩
        day := ⟨x.date.day_pos, hfits⟩ }
  | day =>
      have hfits := Nat.le_trans hle (daysInMonth_ge x.date.year x.date.month)
      exact { hx with day := ⟨h.1, hfits⟩ }
  | hour => exact { hx with hour := Nat.lt_succ_of_le hle }
  | minute => exact { hx with minute := Nat.lt_succ_of_le hle }
  | second => exact { hx with second := Nat.lt_succ_of_le hle }
  | millisecond =>
      have hlt : v * 1000 < 1000000 := by
        have hthousand : v ≤ 999 := hle
        omega
      exact { hx with microsecond := hlt }

/-- A day is counted on from the first of its month. -/
theorem countOn_dayNumber (year month day n : Nat) :
    countOn (Calendar.dayNumber year month day) n =
      countOn (Calendar.dayNumber year month 1 + (day - 1)) n := by
  have hday : (Calendar.dayNumber year month day : Int) =
      Calendar.dayNumber year month 1 + (day - 1) := by
    simp only [Calendar.dayNumber]
    omega
  rw [hday]

/-- Within the range of a unit, setting it leads to the count of the updated fields. -/
theorem overrideCount_of_inRange (h : a.IsInRange) (x : Instant) :
    a.overrideCount x =
      fieldCount (Function.update x.field a.unit (a.unit.fieldValue a.magnitude)) := by
  obtain ⟨unit, v⟩ := a
  cases unit with
  | year =>
      show countOn _ x.time.micros = countOn (Calendar.dayNumber v x.date.month x.date.day)
        (countMicros x.time.hour x.time.minute x.time.second x.time.microsecond)
      rw [← x.time.micros_eq_countMicros, countOn_dayNumber]
  | month =>
      have hle : v ≤ 11 := h.2
      have hsame : x.date.year + v / 12 = x.date.year ∧ v % 12 = v := by omega
      show countOn (Calendar.dayNumber (x.date.year + v / 12) (v % 12 + 1) 1 + _) x.time.micros =
        countOn (Calendar.dayNumber x.date.year (v + 1) x.date.day)
          (countMicros x.time.hour x.time.minute x.time.second x.time.microsecond)
      rw [← x.time.micros_eq_countMicros, hsame.1, hsame.2, countOn_dayNumber]
  | day =>
      show countOn _ x.time.micros = countOn (Calendar.dayNumber x.date.year x.date.month v)
        (countMicros x.time.hour x.time.minute x.time.second x.time.microsecond)
      rw [← x.time.micros_eq_countMicros, countOn_dayNumber]
  | hour =>
      show _ = countOn x.date.dayNumber
        (countMicros v x.time.minute x.time.second x.time.microsecond)
      simp only [Assignment.overrideCount, countOn, countMicros]
      omega
  | minute =>
      show _ = countOn x.date.dayNumber
        (countMicros x.time.hour v x.time.second x.time.microsecond)
      simp only [Assignment.overrideCount, countOn, countMicros]
      omega
  | second =>
      show _ = countOn x.date.dayNumber
        (countMicros x.time.hour x.time.minute v x.time.microsecond)
      simp only [Assignment.overrideCount, countOn, countMicros]
      omega
  | millisecond =>
      show _ = countOn x.date.dayNumber
        (countMicros x.time.hour x.time.minute x.time.second (v * 1000))
      simp only [Assignment.overrideCount, countOn, countMicros]
      omega

/-- Setting a unit within its range updates its field and no other, unless it is a year or a month on
a day that not every month has. -/
theorem exists_overrideOne_of_inRange (h : a.IsInRange)
    (hday : a.unit = .year ∨ a.unit = .month → x.date.day ≤ 28) :
    ∃ y, x.overrideOne a = .ok y ∧
      y.field = Function.update x.field a.unit (a.unit.fieldValue a.magnitude) := by
  obtain ⟨y, hfield⟩ := (areFields_update h hday).exists_instant
  refine ⟨y, overrideOne_eq_ok_iff.mpr ⟨?_, ?_⟩, hfield⟩
  · intro hyear
    unfold Assignment.IsInRange at h
    rw [hyear] at h
    exact h
  · rw [micros_eq_fieldCount, hfield, overrideCount_of_inRange h]

end Instant

/-! ### A whole expression -/

namespace Expression

variable {a : Assignment} {e : Expression} {unit : TimeUnit}

/-- The last amount of a unit. -/
def lastOf (e : Expression) (unit : TimeUnit) : Option Nat :=
  (e.reverse.find? (·.unit = unit)).map Assignment.magnitude

/-- The first amount of a field of the date, if there is one, is a day. -/
def SetsDayFirst (e : Expression) : Prop :=
  ∀ a ∈ e.find? fun a => a.unit = .year ∨ a.unit = .month ∨ a.unit = .day, a.unit = .day

theorem lastOf_cons :
    lastOf (a :: e) unit = (lastOf e unit).or (if a.unit = unit then some a.magnitude else none) := by
  unfold lastOf
  rw [List.reverse_cons, List.find?_append, Option.map_or]
  by_cases h : a.unit = unit <;> simp [h]

/-- A year or a month at the front is not a day. -/
theorem SetsDayFirst.not_year_or_month (h : SetsDayFirst (a :: e)) :
    ¬ (a.unit = .year ∨ a.unit = .month) := by
  intro hunit
  have hday : a.unit = .day := by
    apply h
    rw [List.find?_cons_of_pos]
    · rfl
    · simpa using hunit.imp id .inl
  simp [hday] at hunit

/-- Behind a field of the clock the first field of the date is still to come. -/
theorem SetsDayFirst.of_cons (h : SetsDayFirst (a :: e)) (hday : a.unit ≠ .day) :
    SetsDayFirst e := by
  intro b hb
  apply h
  rw [List.find?_cons_of_neg]
  · exact hb
  · have hunit := h.not_year_or_month
    simpa [hday] using hunit

end Expression

namespace Instant

variable {x : Instant} {e : Expression}

/-- Amounts within their ranges write the last amount of every unit into its field. -/
theorem exists_override_of_inRange (h : ∀ a ∈ e, a.IsInRange)
    (hday : x.date.day ≤ 28 ∨ e.SetsDayFirst) :
    ∃ z, x.override e = .ok z ∧
      ∀ unit, z.field unit = (e.lastOf unit).elim (x.field unit) unit.fieldValue := by
  induction e generalizing x with
  | nil => exact ⟨x, rfl, fun _ => rfl⟩
  | cons a e ih =>
      obtain ⟨ha, he⟩ := List.forall_mem_cons.mp h
      obtain ⟨y, hstep, hfield⟩ := exists_overrideOne_of_inRange ha fun hunit =>
        hday.resolve_right fun hfirst => hfirst.not_year_or_month hunit
      have hday' : y.date.day ≤ 28 ∨ Expression.SetsDayFirst e := by
        have hnext : y.date.day = _ := congrFun hfield .day
        by_cases hunit : a.unit = .day
        · left
          rw [hnext, hunit, Function.update_self]
          have hle := ha.2
          rwa [hunit] at hle
        · rw [Function.update_of_ne (Ne.symm hunit)] at hnext
          rcases hday with hearly | hfirst
          · left
            rw [hnext]
            exact hearly
          · right
            exact hfirst.of_cons hunit
      obtain ⟨z, hrest, hlast⟩ := ih he hday'
      refine ⟨z, override_cons_eq_ok_iff.mpr ⟨y, hstep, hrest⟩, ?_⟩
      intro unit
      rw [hlast, Expression.lastOf_cons, hfield]
      -- A later amount of the unit hides this one, and only this one shows if there is none.
      cases Expression.lastOf e unit with
      | some v => rfl
      | none =>
          by_cases hunit : a.unit = unit
          · subst hunit
            simp
          · simp [hunit, Function.update_of_ne (Ne.symm hunit)]

/-- **Overrides within range set fields and commute.** If every amount lies in the range of its unit,
and the day of the month is one that every month has before a year or a month is set, then an override
always leads to an instant. Each of its fields has the last value given for its unit, or that of the
start if there is none. So the amounts may come in any other order that keeps the last one of every
unit. -/
theorem override_sets_fields (x : Instant) (e : Expression) (h : ∀ a ∈ e, a.IsInRange)
    (hday : x.date.day ≤ 28 ∨ e.SetsDayFirst) :
    ∃ z, x.override e = .ok z ∧
      (∀ unit, z.field unit = (e.lastOf unit).elim (x.field unit) unit.fieldValue) ∧
      ∀ e', e'.Perm e → (∀ unit, Expression.lastOf e' unit = e.lastOf unit) →
        (x.date.day ≤ 28 ∨ Expression.SetsDayFirst e') → x.override e' = .ok z := by
  obtain ⟨z, hz, hfield⟩ := exists_override_of_inRange h hday
  refine ⟨z, hz, hfield, ?_⟩
  intro e' hperm hlast hday'
  have h' : ∀ a ∈ e', a.IsInRange := fun a ha => h a (hperm.mem_iff.mp ha)
  obtain ⟨z', hz', hfield'⟩ := exists_override_of_inRange h' hday'
  have hsame : z' = z := by
    apply ext_field
    funext unit
    rw [hfield, hfield', hlast]
  rw [hz', hsame]

/-- On January 31st, the 5th of February: the day is set first, and the second hour replaces the
first. -/
theorem day_is_set_before_month :
    let x : Instant := ⟨⟨2011, 1, 31, by decide, by decide, by decide, by decide, by decide,
      by decide⟩, .ofFields 9 54 55 7⟩
    let z : Instant := ⟨⟨2011, 2, 5, by decide, by decide, by decide, by decide, by decide,
      by decide⟩, .ofFields 23 54 55 250000⟩
    let e : Expression := [⟨.hour, 7⟩, ⟨.day, 5⟩, ⟨.millisecond, 250⟩, ⟨.month, 1⟩, ⟨.hour, 23⟩]
    (∀ a ∈ e, a.IsInRange) ∧ e.SetsDayFirst ∧ x.override e = .ok z := by
  intro x z e
  have h : ∀ a ∈ e, a.IsInRange := by decide
  have hfirst : e.SetsDayFirst := by
    intro a ha
    cases ha
    rfl
  obtain ⟨z', hz', hfield, -⟩ := override_sets_fields x e h (.inr hfirst)
  have hsame : z' = z := by
    apply ext_field
    funext unit
    rw [hfield]
    cases unit <;> decide
  exact ⟨h, hfirst, hsame ▸ hz'⟩

end Instant
end WikiDates
