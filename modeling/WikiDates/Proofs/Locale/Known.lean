import WikiDates.Locale.Resolution
import WikiDates.Proofs.Results

/-!
# What all known locales have in common

However a locale is found, its conventions are recorded in the table of the known locales. So what
holds of every entry of the table holds of every locale that was read: `Conventions.IsComplete` is
all that the writing of dates needs to know.
-/

namespace WikiDates.Locale

open Results

/-! ### From locales to the table -/

theorem mem_known_of_recorded? {name : List Char} {c : Conventions}
    (h : recorded? name = some c) : ∃ entry ∈ known, entry.2 = c := by
  unfold recorded? at h
  split at h
  · next c' hlookup =>
      cases h
      obtain ⟨before, after, hknown, -⟩ := List.lookup_eq_some_iff.mp hlookup
      exact ⟨_, by rw [hknown]; exact List.mem_append_right _ List.mem_cons_self, rfl⟩
  · obtain ⟨entry, hfind, rfl⟩ := Option.map_eq_some_iff.mp h
    exact ⟨entry, List.mem_of_find?_eq_some hfind, rfl⟩

theorem mem_known_of_ofIdentifier? {i : Identifier} {l : Locale} (h : ofIdentifier? i = some l) :
    ∃ entry ∈ known, entry.2 = l.conventions := by
  obtain ⟨c, hc, rfl⟩ := Option.map_eq_some_iff.mp h
  rcases Option.or_eq_some_iff.mp hc with hc | ⟨-, hc⟩
  · exact mem_known_of_recorded? hc
  · exact mem_known_of_recorded? hc

theorem mem_known_of_ofReduced? {i : Identifier} {l : Locale} (h : ofReduced? i = some l) :
    ∃ entry ∈ known, entry.2 = l.conventions := by
  rcases Option.or_eq_some_iff.mp h with h | ⟨-, h⟩
  · exact mem_known_of_ofIdentifier? h
  · exact mem_known_of_ofIdentifier? h

theorem mem_known_of_ofLikely? {i : Identifier} {l : Locale} (h : ofLikely? i = some l) :
    ∃ entry ∈ known, entry.2 = l.conventions := by
  rcases Option.or_eq_some_iff.mp h with h | ⟨-, h⟩
  · obtain ⟨likely, -, h⟩ := Option.bind_eq_some_iff.mp h
    exact mem_known_of_ofReduced? h
  · obtain ⟨likely, -, h⟩ := Option.bind_eq_some_iff.mp h
    exact mem_known_of_ofReduced? h

/-- A locale that was read has recorded conventions. -/
theorem mem_known_of_parse {s : String} {l : Locale} (h : parse s = .ok l) :
    ∃ entry ∈ known, entry.2 = l.conventions := by
  obtain ⟨i, -, h⟩ := bind_eq_ok_iff.mp h
  split at h
  · next l' hresolve =>
      cases h
      rcases Option.or_eq_some_iff.mp hresolve with hfound | ⟨-, hfound⟩
      · exact mem_known_of_ofIdentifier? hfound
      · exact mem_known_of_ofLikely? hfound
  · cases h

/-! ### Periods of the day -/

/-- The second at which a part of the day is over, unless it is a single second. -/
def Span.stop? : Span → Option Nat
  | moment _ => none
  | between _ stop => some stop

/-- Only at its end does the next second leave a part of the day. -/
theorem Span.contains_succ {span : Span} {second : Nat} (hspan : span.isMoment = false)
    (h : span.contains second = true) :
    span.contains (second + 1) = true ∨ span.stop? = some (second + 1) := by
  cases span with
  | moment s => cases hspan
  | between start stop =>
      by_cases hstop : stop = second + 1
      · exact Or.inr (congrArg some hstop)
      · left
        unfold contains at h ⊢
        dsimp only at h ⊢
        split at h
        · next hle =>
            rw [if_pos hle]
            simp only [Bool.and_eq_true, decide_eq_true_eq] at h ⊢
            omega
        · next hle =>
            rw [if_neg hle]
            simp only [Bool.or_eq_true, decide_eq_true_eq] at h ⊢
            omega

namespace Conventions

/-- Whether a second lies in a period that is more than a single second. -/
def isCovered (c : Conventions) (second : Nat) : Bool :=
  c.periods.any fun p => !p.span.isMoment && p.span.contains second

theorem exists_periodAt? {c : Conventions} {second : Nat} (h : c.isCovered second = true) :
    ∃ p ∈ c.periods, c.periodAt? second = some p := by
  unfold periodAt?
  cases hmoment : c.periods.find? fun p => p.span.isMoment && p.span.contains second with
  | some p => exact ⟨p, List.mem_of_find?_eq_some hmoment, rfl⟩
  | none =>
      have hsome := List.find?_isSome.mpr (List.any_eq_true.mp h)
      obtain ⟨p, hp⟩ := Option.isSome_iff_exists.mp hsome
      exact ⟨p, List.mem_of_find?_eq_some hp, hp⟩

/-- The whole day is covered if midnight is, and every second at which a period is over. -/
theorem isCovered_of_stops {c : Conventions} (hmidnight : c.isCovered 0 = true)
    (hstops : ∀ p ∈ c.periods, ∀ stop ∈ p.span.stop?, stop < 86400 → c.isCovered stop = true)
    {second : Nat} (h : second < 86400) : c.isCovered second = true := by
  induction second with
  | zero => exact hmidnight
  | succ second ih =>
      obtain ⟨p, hp, hcontains⟩ := List.any_eq_true.mp (ih (Nat.lt_of_succ_lt h))
      simp only [Bool.and_eq_true, Bool.not_eq_true'] at hcontains
      rcases Span.contains_succ hcontains.1 hcontains.2 with hnext | hstop
      · exact List.any_eq_true.mpr ⟨p, hp, by simp [hcontains.1, hnext]⟩
      · exact hstops p hp (second + 1) hstop h

/-! ### The table -/

/-- What the conventions of a known locale promise. -/
structure IsComplete (c : Conventions) : Prop where
  /-- The first days of the calendar make a week. -/
  firstWeek : c.week.minDays + c.week.daysBefore 0 ≤ 7
  /-- The first days of the last year make a week only where a single day does. -/
  lastWeek : c.week.minDays + c.week.daysBefore 4 ≤ 7 ↔ c.week.minDays = 1
  /-- Every second of the day lies in a period. -/
  period : ∀ second < 86400, ∃ p ∈ c.periods, c.periodAt? second = some p
  /-- Every period has a name within a time. -/
  named : ∀ p ∈ c.periods, ∀ width, (p.inTime.ofWidth width).isSome = true

theorem isComplete_of_mem_known {entry : String × Conventions} (h : entry ∈ known) :
    entry.2.IsComplete where
  -- The table is finite, so each promise is checked entry by entry.
  firstWeek := by
    revert entry
    decide +kernel
  lastWeek := by
    revert entry
    decide +kernel
  period := by
    intro second hsecond
    -- The seconds are too many to be checked; midnight and the ends of the periods are few.
    refine exists_periodAt? (isCovered_of_stops ?_ ?_ hsecond)
    · revert entry
      decide +kernel
    · revert entry
      decide +kernel
  named := by
    intro p hp width
    have hnames : p.inTime.abbreviated.isSome = true ∧ p.inTime.wide.isSome = true ∧
        p.inTime.narrow.isSome = true := by
      revert p entry
      decide +kernel
    obtain ⟨habbreviated, hwide, hnarrow⟩ := hnames
    unfold Forms.ofWidth
    split
    · exact hwide
    · exact hnarrow
    · exact habbreviated

end Conventions

/-- **A locale that was read has complete conventions.** -/
theorem isComplete_of_parse {s : String} {l : Locale} (h : parse s = .ok l) :
    l.conventions.IsComplete := by
  obtain ⟨entry, hentry, hconventions⟩ := mem_known_of_parse h
  exact hconventions ▸ Conventions.isComplete_of_mem_known hentry

end WikiDates.Locale
