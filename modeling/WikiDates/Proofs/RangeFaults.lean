import WikiDates.Proofs.Carrying
import WikiDates.Proofs.Calendar.Shift
import WikiDates.Proofs.Number.Binary64
import WikiDates.Proofs.Override

/-!
# Which adjustments fail only for want of a date

An adjustment that leads out of the calendar is to be reported as just that. The report writes the
shift out, so the shift has to be *tellable*: its amounts must have nearest double-precision
numbers, both before and after they are carried, and its year must not have too many digits.

`Assignment.IsTellableOffset` and `Assignment.IsTellableOverride` say it of single amounts, and
`Instant.adjustment_faults_iff_tellable` of whole expressions: exactly a run that reaches an amount
that is not tellable fails in another way.
-/

namespace WikiDates

open Results

/-! ### Writing a shift -/

theorem Numeral.isWritable_of_lt {n : Nat} (h : n < 10000) : isWritable n = true := by
  have hdigits : 10 ^ 4 ≤ 10 ^ digitLimit := Nat.pow_le_pow_right (by decide) (by decide)
  unfold isWritable
  generalize digitLimit = limit at hdigits ⊢
  exact decide_eq_true (Nat.lt_of_lt_of_le h hdigits)

namespace Shift

/-- The amounts of a shift after carrying, the largest unit first. -/
def carriedAmounts (s : Shift) : List Int :=
  [s.carried.years, s.carried.months, s.carried.days, s.carried.hours, s.carried.minutes,
    s.carried.seconds, s.carried.microseconds]

theorem signedSignificant?_eq_none_iff {n : Int} :
    Numeral.signedSignificant? n = none ↔ Binary64.limit ≤ n.natAbs := by
  rw [Numeral.signedSignificant?, Option.map_eq_none_iff, Binary64.ofNat?_eq_none_iff]

theorem amountTexts?_eq_none_iff {s : Shift} :
    s.amountTexts? = none ↔ ∃ n ∈ s.carriedAmounts, Binary64.limit ≤ n.natAbs := by
  have hpos := limit_pos
  have hzero : ∀ n : Int, Binary64.limit ≤ n.natAbs → n ≠ 0 := by
    rintro n h rfl
    simp only [Int.natAbs_zero] at h
    omega
  unfold amountTexts? carriedAmounts
  rw [mapM_eq_none_iff]
  constructor
  · rintro ⟨⟨name, n⟩, hmem, hnone⟩
    have hlimit := signedSignificant?_eq_none_iff.mp (Option.map_eq_none_iff.mp hnone)
    refine ⟨n, ?_, hlimit⟩
    have hmem := List.mem_map_of_mem (f := Prod.snd) (List.mem_filter.mp hmem).1
    exact hmem
  · rintro ⟨n, hmem, hlimit⟩
    -- Only zeros are left out of the text, and zero has a nearest number.
    have hmem : n ∈ [("years", s.carried.years), ("months", s.carried.months),
        ("days", s.carried.days), ("hours", s.carried.hours), ("minutes", s.carried.minutes),
        ("seconds", s.carried.seconds), ("microseconds", s.carried.microseconds)].map Prod.snd :=
      hmem
    obtain ⟨⟨name, n'⟩, hin, rfl⟩ := List.mem_map.mp hmem
    refine ⟨(name, n'), List.mem_filter.mpr ⟨hin, by simpa using hzero _ hlimit⟩, ?_⟩
    exact Option.map_eq_none_iff.mpr (signedSignificant?_eq_none_iff.mpr hlimit)

/-- The quotient of two sizes, in the form that arithmetic reads. -/
theorem natAbs_tdiv (n m : Int) : (n.tdiv m).natAbs = n.natAbs / m.natAbs := Int.natAbs_tdiv n m

/-- After carrying, only years and days may be large. -/
theorem forall_carriedAmounts_lt_iff {s : Shift} :
    (∀ n ∈ s.carriedAmounts, n.natAbs < Binary64.limit) ↔
      s.carried.years.natAbs < Binary64.limit ∧ s.carried.days.natAbs < Binary64.limit := by
  have hlarge := limit_large
  constructor
  · intro h
    exact ⟨h _ (by simp [carriedAmounts]), h _ (by simp [carriedAmounts])⟩
  · rintro ⟨hyears, hdays⟩ n hn
    have hsmall : s.carried.months.natAbs < 12 ∧ s.carried.hours.natAbs < 24 ∧
        s.carried.minutes.natAbs < 60 ∧ s.carried.seconds.natAbs < 60 ∧
          s.carried.microseconds.natAbs < 1000000 := by
      simp only [carried, Int.natAbs_tmod]
      exact ⟨Nat.mod_lt _ (by decide), Nat.mod_lt _ (by decide), Nat.mod_lt _ (by decide),
        Nat.mod_lt _ (by decide), Nat.mod_lt _ (by decide)⟩
    simp only [carriedAmounts, List.mem_cons, List.not_mem_nil, or_false] at hn
    rcases hn with rfl | rfl | rfl | rfl | rfl | rfl | rfl <;> omega

/-- A shift can be carried and written out. -/
structure IsTellable (s : Shift) : Prop where
  carriable : s.isCarriable = true
  amounts : ∀ n ∈ s.carriedAmounts, n.natAbs < Binary64.limit
  year : ∀ n ∈ s.year, Numeral.isWritable n = true

/-- How a shift fails that is not tellable. -/
def escape (s : Shift) : Failure :=
  if s.isCarriable = true ∧ s.amountTexts? ≠ none then .tooManyDigits else .notFinite

theorem amountTexts?_ne_none_iff {s : Shift} :
    s.amountTexts? ≠ none ↔ ∀ n ∈ s.carriedAmounts, n.natAbs < Binary64.limit := by
  rw [Ne, amountTexts?_eq_none_iff]
  constructor
  · intro h n hn
    exact Nat.lt_of_not_le fun hle => h ⟨n, hn, hle⟩
  · rintro h ⟨n, hn, hle⟩
    exact absurd (h n hn) (Nat.not_lt_of_le hle)

theorem year_all_isWritable_iff {s : Shift} :
    s.year.any (!Numeral.isWritable ·) = false ↔ ∀ n ∈ s.year, Numeral.isWritable n = true := by
  cases h : s.year with
  | none => simp
  | some n => simp

theorem failure_of_tellable {s : Shift} (h : s.IsTellable) (report : RangeFault → Failure)
    (fault : RangeFault) : s.failure report fault = report fault := by
  have htexts := amountTexts?_ne_none_iff.mpr h.amounts
  have hyear := year_all_isWritable_iff.mpr h.year
  unfold failure
  rw [if_neg (by simpa using htexts), if_neg (by simp [hyear])]

theorem failure_of_not_tellable {s : Shift} (hcarry : s.isCarriable = true) (h : ¬ s.IsTellable)
    (report : RangeFault → Failure) (fault : RangeFault) : s.failure report fault = s.escape := by
  unfold failure escape
  by_cases htexts : s.amountTexts? = none
  · rw [if_pos (by simp [htexts]), if_neg (fun hboth => hboth.2 htexts)]
  · have hyear : ¬ s.year.any (!Numeral.isWritable ·) = false := fun hyear =>
      h ⟨hcarry, amountTexts?_ne_none_iff.mp htexts, year_all_isWritable_iff.mp hyear⟩
    rw [if_neg (by simpa using htexts), if_pos (by simpa using hyear), if_pos ⟨hcarry, htexts⟩]

end Shift

namespace Instant

theorem shift_eq_error_iff {x : Instant} {s : Shift} {failure : Failure} :
    x.shift s = .error failure ↔
      s.isCarriable = false ∧ failure = .notFinite ∨ s.isCarriable = true ∧
        ∃ fault, s.addTo x = .error fault ∧ failure = s.failure (.outOfRange s x) fault := by
  unfold shift
  split
  · next h =>
      rw [mapError_eq_error_iff]
      simp [h, eq_comm]
  · next h => simp [h, eq_comm]

/-- A tellable shift fails only for want of a date. -/
theorem shift_of_tellable {s : Shift} (h : s.IsTellable) (x : Instant) :
    (∃ y, x.shift s = .ok y) ∨ ∃ fault, x.shift s = .error (.outOfRange s x fault) := by
  cases hadd : s.addTo x with
  | ok y => exact Or.inl ⟨y, shift_eq_ok_iff.mpr ⟨h.carriable, hadd⟩⟩
  | error fault =>
      refine Or.inr ⟨fault, shift_eq_error_iff.mpr (Or.inr ⟨h.carriable, fault, hadd, ?_⟩)⟩
      rw [Shift.failure_of_tellable h]

/-- A shift that is not tellable fails in its own way. -/
theorem shift_of_not_tellable {s : Shift} {x : Instant} (h : ¬ s.IsTellable)
    (hout : ∀ y, x.shift s ≠ .ok y) : x.shift s = .error s.escape := by
  rw [shift_eq_error_iff]
  cases hcarry : s.isCarriable with
  | false => exact Or.inl ⟨rfl, by simp [Shift.escape, hcarry]⟩
  | true =>
      have hadd : ∀ y, s.addTo x ≠ .ok y := fun y hy => hout y (shift_eq_ok_iff.mpr ⟨hcarry, hy⟩)
      obtain ⟨fault, hfault⟩ := eq_error_of_ne_ok hadd
      refine Or.inr ⟨rfl, fault, hfault, ?_⟩
      rw [Shift.failure_of_not_tellable hcarry h]

/-- A shift that stays in the calendar is short. -/
theorem bounds_of_addTo_eq_ok {s : Shift} {x y : Instant} (h : s.addTo x = .ok y) :
    (12 ≤ s.monthIndexFrom x.date ∧ s.monthIndexFrom x.date < 120000) ∧
      s.length.natAbs < microsInCalendar := by
  obtain ⟨z, hz, hcount⟩ := Shift.addTo_eq_ok_iff.mp h
  obtain ⟨d, hd, -⟩ := Option.map_eq_some_iff.mp hz
  have hy := y.micros_lt
  have hz := z.micros_lt
  exact ⟨(Date.inMonth?_eq_some_iff.mp hd).1, by omega⟩

end Instant

/-! ### Tellable amounts -/

namespace Assignment

/-- The shift that adds an amount `sign` times is tellable. -/
def IsTellableOffset (sign : Int) (a : Assignment) : Prop :=
  sign.natAbs * a.size < Binary64.limit

/-- The shift that sets a unit to an amount is tellable. -/
def IsTellableOverride (a : Assignment) : Prop :=
  match a.unit with
  | .year => Numeral.isWritable a.magnitude = true
  | .day => a.magnitude ≤ Binary64.limit
  | _ => a.size < Binary64.limit

theorem isTellable_iff_of_year {s : Shift} (hyear : ∀ n ∈ s.year, Numeral.isWritable n = true) :
    s.IsTellable ↔ s.isCarriable = true ∧
      s.carried.years.natAbs < Binary64.limit ∧ s.carried.days.natAbs < Binary64.limit := by
  rw [← Shift.forall_carriedAmounts_lt_iff]
  constructor
  · intro h
    exact ⟨h.carriable, h.amounts⟩
  · rintro ⟨hcarry, hamounts⟩
    exact ⟨hcarry, hamounts, hyear⟩

theorem escape_of_year {s : Shift} (hyear : ∀ n ∈ s.year, Numeral.isWritable n = true)
    (h : ¬ s.IsTellable) : s.escape = .notFinite := by
  rw [Shift.escape, if_neg]
  rintro ⟨hcarry, htexts⟩
  exact h ⟨hcarry, Shift.amountTexts?_ne_none_iff.mp htexts, hyear⟩

theorem year_offsetShift (sign : Int) (a : Assignment) : (a.offsetShift sign).year = none := by
  obtain ⟨unit, v⟩ := a
  cases unit <;> rfl

/-- Setting a year takes no large amounts. -/
theorem amounts_overrideShift_year {day : Nat} (hday : day ≤ 31) (v : Nat) :
    (overrideShift day ⟨.year, v⟩).isCarriable = true ∧
      ∀ n ∈ (overrideShift day ⟨.year, v⟩).carriedAmounts, n.natAbs < Binary64.limit := by
  have hlarge := Shift.limit_large
  refine ⟨(Shift.isCarriable_overrideShift_iff _ _).mpr fun hcarried => absurd rfl hcarried.1, ?_⟩
  rw [Shift.forall_carriedAmounts_lt_iff]
  simp [Shift.carried, overrideShift]
  omega

theorem isTellable_offsetShift_iff (sign : Int) (a : Assignment) :
    (a.offsetShift sign).IsTellable ↔ a.IsTellableOffset sign := by
  have hlarge := Shift.limit_large
  rw [isTellable_iff_of_year (by simp [year_offsetShift]), Shift.isCarriable_offsetShift_iff]
  unfold IsTellableOffset
  obtain ⟨unit, v⟩ := a
  -- All that counts of the limit is that it is large; its digits would only be computed with.
  generalize Binary64.limit = limit at hlarge
  cases unit <;>
    simp [Shift.carried, offsetShift, IsCarried, size, Int.natAbs_mul, Shift.natAbs_tdiv,
      -Int.natAbs_tdiv, Nat.mul_assoc] <;>
    omega

/-- The days that are added to a first of a month may reach the limit, since the first itself counts
as one. -/
theorem isTellable_overrideShift_iff {day : Nat} (hday : day ≤ 31) (a : Assignment) :
    (a.overrideShift day).IsTellable ↔ a.IsTellableOverride := by
  have hlarge := Shift.limit_large
  obtain ⟨unit, v⟩ := a
  cases unit with
  | year =>
      obtain ⟨hcarry, hamounts⟩ := amounts_overrideShift_year hday v
      constructor
      · intro h
        exact h.year v rfl
      · intro h
        refine ⟨hcarry, hamounts, ?_⟩
        intro n hn
        cases hn
        exact h
  | month | day | hour | minute | second | millisecond =>
      rw [isTellable_iff_of_year (by simp [overrideShift]), Shift.isCarriable_overrideShift_iff]
      unfold IsTellableOverride
      generalize Binary64.limit = limit at hlarge
      simp [Shift.carried, overrideShift, IsCarried, size, Int.natAbs_mul, Shift.natAbs_tdiv,
        -Int.natAbs_tdiv]
      omega

/-- How setting a unit fails that is not tellable. -/
def overrideEscape (a : Assignment) : Failure :=
  if a.unit = .year then .tooManyDigits else .notFinite

theorem escape_overrideShift {day : Nat} (hday : day ≤ 31) {a : Assignment}
    (h : ¬ (a.overrideShift day).IsTellable) : (a.overrideShift day).escape = a.overrideEscape := by
  obtain ⟨unit, v⟩ := a
  cases unit with
  | year =>
      obtain ⟨hcarry, hamounts⟩ := amounts_overrideShift_year hday v
      rw [Shift.escape, if_pos ⟨hcarry, Shift.amountTexts?_ne_none_iff.mpr hamounts⟩]
      rfl
  | month | day | hour | minute | second | millisecond =>
      exact escape_of_year (by simp [overrideShift]) h

/-- An amount that is added with success is tellable. -/
theorem isTellableOffset_of_shift {sign : Int} {a : Assignment} {x y : Instant}
    (h : x.shift (a.offsetShift sign) = .ok y) : a.IsTellableOffset sign := by
  have hlarge := Shift.limit_large
  obtain ⟨hcarry, hadd⟩ := Instant.shift_eq_ok_iff.mp h
  have hcarried := (Shift.isCarriable_offsetShift_iff sign a).mp hcarry
  obtain ⟨hindex, hlength⟩ := Instant.bounds_of_addTo_eq_ok hadd
  unfold IsTellableOffset
  obtain ⟨unit, v⟩ := a
  cases unit with
  | year =>
      -- Years and days are not carried: here it is the calendar that keeps them small.
      have hyear := x.date.year_le
      have hmonth := x.date.month_le
      simp [Shift.monthIndexFrom, Calendar.monthIndex, offsetShift] at hindex
      have hsize : sign.natAbs * v = (sign * v).natAbs := by simp [Int.natAbs_mul]
      simp only [size, reduceCtorEq, if_false, hsize]
      omega
  | day =>
      simp [Shift.length, offsetShift, Instant.microsInCalendar, Calendar.microsPerDay,
        Calendar.lastDay] at hlength
      have hsize : sign.natAbs * v = (sign * v).natAbs := by simp [Int.natAbs_mul]
      simp only [size, reduceCtorEq, if_false, hsize]
      omega
  | month | hour | minute | second | millisecond => exact hcarried ⟨by simp, by simp⟩

/-- An amount that a unit is set to with success is tellable. -/
theorem isTellableOverride_of_overrideOne {a : Assignment} {x y : Instant}
    (h : x.overrideOne a = .ok y) : a.IsTellableOverride := by
  have hlarge := Shift.limit_large
  obtain ⟨-, hcarry, hadd⟩ := Instant.overrideOne_eq_ok_iff_shift.mp h
  have hcarried := (Shift.isCarriable_overrideShift_iff x.date.day a).mp hcarry
  obtain ⟨hindex, hlength⟩ := Instant.bounds_of_addTo_eq_ok hadd
  unfold IsTellableOverride
  obtain ⟨unit, v⟩ := a
  cases unit with
  | year =>
      simp [Shift.monthIndexFrom, Calendar.monthIndex, overrideShift] at hindex
      have hyear : v < 10000 := by omega
      exact Numeral.isWritable_of_lt hyear
  | day =>
      simp [Shift.length, overrideShift, Instant.microsInCalendar, Calendar.microsPerDay,
        Calendar.lastDay] at hlength
      dsimp only
      omega
  | month | hour | minute | second | millisecond => exact hcarried ⟨by simp, by simp⟩

end Assignment

/-! ### Single amounts -/

/-- Whether a failure says that there is no such date. -/
def Failure.isDateFault : Failure → Bool
  | yearZero | outOfRange .. | dateOutOfRange .. => true
  | _ => false

namespace Instant

theorem day_le (x : Instant) : x.date.day ≤ 31 :=
  Nat.le_trans x.date.day_le (Calendar.daysInMonth_le _ _)

theorem failsOnly_shift {s : Shift} (h : s.IsTellable) (x : Instant) :
    FailsOnly Failure.isDateFault (x.shift s) := by
  intro failure hfail
  rcases shift_of_tellable h x with ⟨y, hy⟩ | ⟨fault, hfault⟩
  · cases hy.symm.trans hfail
  · cases hfault.symm.trans hfail
    rfl

theorem failsOnly_overrideOne {a : Assignment} (h : a.IsTellableOverride) (x : Instant) :
    FailsOnly Failure.isDateFault (x.overrideOne a) := by
  unfold overrideOne
  split
  · intro failure hfail
    cases hfail
    rfl
  · exact failsOnly_shift ((Assignment.isTellable_overrideShift_iff x.day_le a).mpr h) x

theorem offsetOne_of_not_tellable {sign : Int} {a : Assignment} (h : ¬ a.IsTellableOffset sign)
    (x : Instant) : x.shift (a.offsetShift sign) = .error .notFinite := by
  have hshift : ¬ (a.offsetShift sign).IsTellable := fun htell =>
    h ((Assignment.isTellable_offsetShift_iff sign a).mp htell)
  rw [shift_of_not_tellable hshift fun y hy => h (Assignment.isTellableOffset_of_shift hy),
    Assignment.escape_of_year (by simp [Assignment.year_offsetShift]) hshift]

theorem overrideOne_of_not_tellable {a : Assignment} (h : ¬ a.IsTellableOverride) (x : Instant) :
    x.overrideOne a = .error a.overrideEscape := by
  have hshift : ¬ (a.overrideShift x.date.day).IsTellable := fun htell =>
    h ((Assignment.isTellable_overrideShift_iff x.day_le a).mp htell)
  have hout : ∀ y, x.overrideOne a ≠ .ok y := fun y hy =>
    h (Assignment.isTellableOverride_of_overrideOne hy)
  -- The year 0 is refused before the shift, but it has few digits and so is tellable.
  have hyear : ¬ (a.unit = .year ∧ a.magnitude < 1) := by
    rintro ⟨hunit, hzero⟩
    apply h
    unfold Assignment.IsTellableOverride
    rw [hunit]
    exact Numeral.isWritable_of_lt (by omega)
  unfold overrideOne at hout ⊢
  rw [if_neg hyear] at hout ⊢
  rw [shift_of_not_tellable hshift hout, Assignment.escape_overrideShift x.day_le hshift]

end Instant

/-! ### Whole expressions -/

section Run

variable {step : Instant → Assignment → Except Failure Instant} {Tellable : Assignment → Prop}
  {escape : Assignment → Failure} {x : Instant} {e : Expression}

/-- A run of steps that reaches an amount that is not tellable ends there. -/
theorem run_of_not_tellable (hescape : ∀ x a, ¬ Tellable a → step x a = .error (escape a))
    (h : ¬ ∀ before a after y, e = before ++ a :: after → before.foldlM step x = .ok y →
      Tellable a) :
    ∃ a ∈ e, ¬ Tellable a ∧ e.foldlM step x = .error (escape a) := by
  simp only [Classical.not_forall] at h
  obtain ⟨before, a, after, y, hsplit, hrun, hnot⟩ := h
  refine ⟨a, by simp [hsplit], hnot, ?_⟩
  exact foldlM_eq_error_iff.mpr ⟨before, a, after, y, hsplit, hrun, hescape y a hnot⟩

/-- It fails only for want of a date exactly if it reaches no such amount. -/
theorem failsOnly_run_iff (htell : ∀ x a, Tellable a → FailsOnly Failure.isDateFault (step x a))
    (hescape : ∀ x a, ¬ Tellable a → step x a = .error (escape a))
    (hfault : ∀ a, (escape a).isDateFault = false) :
    FailsOnly Failure.isDateFault (e.foldlM step x) ↔
      ∀ before a after y, e = before ++ a :: after → before.foldlM step x = .ok y → Tellable a := by
  constructor
  · intro h
    apply Classical.byContradiction
    intro hnot
    obtain ⟨a, -, -, hfail⟩ := run_of_not_tellable hescape hnot
    have hdate := h _ hfail
    rw [hfault a] at hdate
    cases hdate
  · intro h failure hfail
    obtain ⟨before, a, after, y, hsplit, hrun, hstep⟩ := foldlM_eq_error_iff.mp hfail
    exact htell y a (h before a after y hsplit hrun) failure hstep

end Run

theorem Assignment.isDateFault_overrideEscape (a : Assignment) :
    a.overrideEscape.isDateFault = false := by
  unfold overrideEscape
  split <;> rfl

namespace Instant

/-- All amounts are tellable that adding an expression reaches. -/
def TellableOffset (x : Instant) (e : Expression) (sign : Int) : Prop :=
  ∀ before a after y, e = before ++ a :: after → x.offset before sign = .ok y →
    a.IsTellableOffset sign

/-- All amounts are tellable that setting the units of an expression reaches. -/
def TellableOverride (x : Instant) (e : Expression) : Prop :=
  ∀ before a after y, e = before ++ a :: after → x.override before = .ok y → a.IsTellableOverride

theorem failsOnly_offset_iff {x : Instant} {e : Expression} {sign : Int} :
    FailsOnly Failure.isDateFault (x.offset e sign) ↔ x.TellableOffset e sign := by
  have htell : ∀ (x : Instant) (a : Assignment), a.IsTellableOffset sign →
      FailsOnly Failure.isDateFault (x.shift (a.offsetShift sign)) := fun x a h =>
    failsOnly_shift ((Assignment.isTellable_offsetShift_iff sign a).mpr h) x
  exact failsOnly_run_iff htell (fun x _ h => offsetOne_of_not_tellable h x) fun _ => rfl

theorem offset_of_not_tellable {x : Instant} {e : Expression} {sign : Int}
    (h : ¬ x.TellableOffset e sign) : x.offset e sign = .error .notFinite := by
  have hescape : ∀ (x : Instant) (a : Assignment), ¬ a.IsTellableOffset sign →
      x.shift (a.offsetShift sign) = .error .notFinite := fun x _ h =>
    offsetOne_of_not_tellable h x
  obtain ⟨-, -, -, hfail⟩ := run_of_not_tellable hescape h
  exact hfail

theorem failsOnly_override_iff {x : Instant} {e : Expression} :
    FailsOnly Failure.isDateFault (x.override e) ↔ x.TellableOverride e :=
  failsOnly_run_iff (fun x _ h => failsOnly_overrideOne h x)
    (fun x _ h => overrideOne_of_not_tellable h x) Assignment.isDateFault_overrideEscape

theorem override_of_not_tellable {x : Instant} {e : Expression} (h : ¬ x.TellableOverride e) :
    ∃ a ∈ e, ¬ a.IsTellableOverride ∧ x.override e = .error a.overrideEscape :=
  run_of_not_tellable (fun x _ h => overrideOne_of_not_tellable h x) h

/-- **An adjustment fails only for want of a date exactly while its amounts are tellable.** The
first amount that is not ends it: adding it fails for a number that is too large, and so does
setting a unit to it, except for a year, which has too many digits. -/
theorem adjustment_faults_iff_tellable (x : Instant) (e : Expression) :
    (∀ sign, (FailsOnly Failure.isDateFault (x.offset e sign) ↔ x.TellableOffset e sign) ∧
      (¬ x.TellableOffset e sign → x.offset e sign = .error .notFinite)) ∧
    (FailsOnly Failure.isDateFault (x.override e) ↔ x.TellableOverride e) ∧
      (¬ x.TellableOverride e →
        ∃ a ∈ e, ¬ a.IsTellableOverride ∧ x.override e = .error a.overrideEscape) :=
  ⟨fun _ => ⟨failsOnly_offset_iff, offset_of_not_tellable⟩, failsOnly_override_iff,
    override_of_not_tellable⟩

/-- Adding as many days as the limit fails for the number, adding one day less for the date. -/
example : (first.offset [⟨.day, Binary64.limit⟩] 1 matches .error .notFinite) ∧
    (first.offset [⟨.day, Binary64.limit - 1⟩] 1 matches .error (.outOfRange ..)) := by
  decide +kernel

end Instant
end WikiDates
