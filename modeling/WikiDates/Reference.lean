import WikiDates.Options.Basic
import WikiDates.Value

/-!
# References of any kind

Options are applied to a reference. As a rule that is an instant, but a configuration may hand in
any value. `Options.applyTo_instant` says that on instants this is the rule for instants.

* A date is shifted like its midnight. It stays a date until a shift speaks of the time of day, and
is an instant from then on.
* Any other value cannot be shifted. It passes unchanged where there is nothing to do.
-/

namespace WikiDates

/-- The date that a shift leads to from a date, or the instant if the shift speaks of the time. -/
def Date.shift (d : Date) (s : Shift) : Except Failure Value :=
  if s.isCarriable then
    ((s.addTo (.ofDate d)).mapError (s.failure (.dateOutOfRange s d))).map fun x =>
      if s.hasTime then .instant x else .date x.date
  else .error .notFinite

namespace Value

/-- What a shift leads to. -/
def shift (v : Value) (s : Shift) : Except Failure Value :=
  match v with
  | .instant x => (x.shift s).map .instant
  | .date d => d.shift s
  | other => if s.isCarriable then .error (.notShiftable other.kind) else .error .notFinite

/-- The reference some days away. -/
def daysAway (v : Value) (days : Int) : Except Failure Value :=
  if days = 0 then .ok v else v.shift { days }

/-- The day of the month. -/
def day? : Value → Option Nat
  | .instant x => some x.date.day
  | .date d => some d.day
  | _ => none

/-- Set one unit of a reference. Only years and months need its day. -/
def overrideOne (v : Value) (a : Assignment) : Except Failure Value :=
  if a.unit = .year ∧ a.magnitude < 1 then .error .yearZero
  else
    match v.day? with
    | some day => v.shift (a.overrideShift day)
    | none =>
      if a.unit = .year ∨ a.unit = .month then .error (.missingPart v.fullKind "day")
      else v.shift (a.overrideShift 1)

/-- Add the amounts of an expression, each `sign` times. -/
def offset (v : Value) (e : Expression) (sign : Int) : Except Failure Value :=
  e.foldlM (fun v a => v.shift (a.offsetShift sign)) v

/-- Set units to the amounts of an expression. -/
def override (v : Value) (e : Expression) : Except Failure Value := e.foldlM overrideOne v

end Value

/-- What the options lead to from a reference of any kind. -/
def Options.applyTo (o : Options) (v : Value) : Except Failure Value := do
  let w ← match o.override with
    | some e => v.override e
    | none => pure v
  match o.offset with
  | some offset => w.offset offset.assignments offset.sign
  | none => pure w

/-! ### Instants among the references -/

@[simp] theorem Value.shift_instant (x : Instant) (s : Shift) :
    (Value.instant x).shift s = (x.shift s).map .instant := rfl

theorem Value.overrideOne_instant (x : Instant) (a : Assignment) :
    (Value.instant x).overrideOne a = (x.overrideOne a).map .instant := by
  unfold Value.overrideOne Instant.overrideOne
  split <;> simp [Value.day?, Except.map]

theorem Value.offset_instant (x : Instant) (e : Expression) (sign : Int) :
    (Value.instant x).offset e sign = (x.offset e sign).map .instant := by
  unfold Value.offset Instant.offset
  induction e generalizing x with
  | nil => rfl
  | cons a e ih =>
    simp only [List.foldlM_cons, Value.shift_instant]
    cases x.shift (a.offsetShift sign) with
    | error failure => rfl
    | ok y => exact ih y

theorem Value.override_instant (x : Instant) (e : Expression) :
    (Value.instant x).override e = (x.override e).map .instant := by
  unfold Value.override Instant.override
  induction e generalizing x with
  | nil => rfl
  | cons a e ih =>
    simp only [List.foldlM_cons, Value.overrideOne_instant]
    cases x.overrideOne a with
    | error failure => rfl
    | ok y => exact ih y

/-- On instants, both ways to apply options agree. -/
theorem Options.applyTo_instant (o : Options) (x : Instant) :
    o.applyTo (.instant x) = (o.apply x).map .instant := by
  unfold Options.applyTo Options.apply
  cases o.override with
  | none =>
    cases o.offset with
    | none => rfl
    | some offset => exact Value.offset_instant x _ _
  | some e =>
    simp only [Value.override_instant]
    cases x.override e with
    | error failure => rfl
    | ok y =>
      cases o.offset with
      | none => rfl
      | some offset => exact Value.offset_instant y _ _

end WikiDates
