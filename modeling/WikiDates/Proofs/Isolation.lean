import WikiDates.Proofs.AcceptedSettings
import WikiDates.Proofs.OptionOrder
import WikiDates.Proofs.RangeFaults
import WikiDates.Proofs.Substitution
import WikiDates.Proofs.Writable

/-!
# Isolated markers

A lenient rendering of a page goes on behind a marker whose failure is the fault of the marker. With
accepted settings and an instant for the present, the other failures have two causes: an amount that
is not tellable, and a field that cannot be written. `Marker.IsIsolated` says that a marker has
neither of them.

`Session.lenient_succeeds_iff_isolated` says that a lenient rendering succeeds exactly if all its
markers are isolated, and then shows every other fault in its place.
-/

namespace WikiDates

open Results

/-! ### Reading options -/

theorem Failure.isMarkerFault_of_isOptionFault {failure : Failure}
    (h : failure.isOptionFault = true) : failure.isMarkerFault = true := by
  rcases isOptionFault_iff.mp h with ⟨_, rfl⟩ | ⟨_, _, rfl⟩
  · rfl
  · rfl

namespace Options

/-- Whatever is wrong with an option text is the fault of its marker. -/
theorem failsOnly_parse (text : Option String) :
    FailsOnly Failure.isMarkerFault (parse text) :=
  (failsOnly_ofTokens (tokenize text)).mono fun _ => Failure.isMarkerFault_of_isOptionFault

theorem exists_pattern_of_readFormat {cs : List Char} {format : String}
    (h : readFormat cs = .ok format) : ∃ p, Pattern.parse format = .ok p := by
  unfold readFormat at h
  dsimp only at h
  split at h
  · next p hp =>
      cases h
      exact ⟨p, hp⟩
  · cases h

theorem exists_pattern_of_readToken {token : List Char} {format : String}
    (h : readToken token = .ok (.format format)) : ∃ p, Pattern.parse format = .ok p := by
  unfold readToken at h
  split at h
  · cases h
  · obtain ⟨_, hread, same⟩ := map_eq_ok_iff.mp h
    cases same
    exact exists_pattern_of_readFormat hread
  · obtain ⟨_, -, same⟩ := map_eq_ok_iff.mp h
    cases same
  · obtain ⟨_, -, same⟩ := map_eq_ok_iff.mp h
    cases same
  · obtain ⟨_, -, same⟩ := map_eq_ok_iff.mp h
    cases same

/-- An explicit format that was read is a date pattern. -/
theorem exists_pattern_of_parse {text : Option String} {o : Options} (h : parse text = .ok o) :
    ∀ format ∈ o.format, ∃ p, Pattern.parse format = .ok p := by
  refine foldlM_invariant (P := fun o : Options => ∀ format ∈ o.format, ∃ p,
    Pattern.parse format = .ok p) ?_ (by simp) h
  intro o token o' ho hstep
  obtain ⟨entry, hentry, rfl⟩ := map_eq_ok_iff.mp hstep
  cases entry with
  | time => exact ho
  | offset e => exact ho
  | override e => exact ho
  | format pattern =>
      intro format hformat
      cases hformat
      exact exists_pattern_of_readToken hentry

/-! ### Adjusting a reference -/

/-- All amounts are tellable that options reach from an instant. -/
def IsTellable (o : Options) (x : Instant) : Prop :=
  (∀ e ∈ o.override, x.TellableOverride e) ∧
    ∀ offset ∈ o.offset, ∀ y, { o with offset := none }.apply x = .ok y →
      y.TellableOffset offset.assignments offset.sign

end Options

namespace Instant

/-- The fault of a marker that an adjustment has is that there is no such date. -/
theorem isMarkerFault_of_shift {x : Instant} {s : Shift} {failure : Failure}
    (h : x.shift s = .error failure) : failure.isMarkerFault = failure.isDateFault := by
  rcases shift_eq_error_iff.mp h with ⟨-, rfl⟩ | ⟨-, fault, -, rfl⟩
  · rfl
  · unfold Shift.failure
    split
    · rfl
    · split <;> rfl

theorem isMarkerFault_of_overrideOne {x : Instant} {a : Assignment} {failure : Failure}
    (h : x.overrideOne a = .error failure) : failure.isMarkerFault = failure.isDateFault := by
  unfold overrideOne at h
  split at h
  · cases h
    rfl
  · exact isMarkerFault_of_shift h

theorem failsOnly_markerFault_iff {r : Except Failure Instant}
    (h : ∀ failure, r = .error failure → failure.isMarkerFault = failure.isDateFault) :
    FailsOnly Failure.isMarkerFault r ↔ FailsOnly Failure.isDateFault r := by
  constructor
  · intro hmarker failure hfail
    rw [← h failure hfail]
    exact hmarker failure hfail
  · intro hdate failure hfail
    rw [h failure hfail]
    exact hdate failure hfail

theorem failsOnly_markerFault_override_iff {x : Instant} {e : Expression} :
    FailsOnly Failure.isMarkerFault (x.override e) ↔ x.TellableOverride e := by
  rw [failsOnly_markerFault_iff, failsOnly_override_iff]
  intro failure h
  obtain ⟨before, a, after, y, -, -, hstep⟩ := foldlM_eq_error_iff.mp h
  exact isMarkerFault_of_overrideOne hstep

theorem failsOnly_markerFault_offset_iff {x : Instant} {e : Expression} {sign : Int} :
    FailsOnly Failure.isMarkerFault (x.offset e sign) ↔ x.TellableOffset e sign := by
  rw [failsOnly_markerFault_iff, failsOnly_offset_iff]
  intro failure h
  obtain ⟨before, a, after, y, -, -, hstep⟩ := foldlM_eq_error_iff.mp h
  exact isMarkerFault_of_shift hstep

end Instant

namespace Options

/-- Units are set on their own, and then amounts are added. -/
theorem apply_eq (o : Options) (x : Instant) :
    o.apply x = { o with offset := none }.apply x >>= fun y =>
      match o.offset with
      | some offset => y.offset offset.assignments offset.sign
      | none => .ok y := by
  unfold apply
  cases o.override with
  | none => rfl
  | some e =>
      show (x.override e >>= _) = ((x.override e >>= fun y => .ok y) >>= _)
      cases x.override e with
      | error failure => rfl
      | ok y => rfl

theorem apply_override (o : Options) (x : Instant) :
    { o with offset := none }.apply x =
      match o.override with
      | some e => x.override e
      | none => .ok x := by
  unfold apply
  cases o.override with
  | none => rfl
  | some e =>
      show (x.override e >>= fun y => .ok y) = x.override e
      cases x.override e with
      | error failure => rfl
      | ok y => rfl

theorem failsOnly_apply_iff {o : Options} {x : Instant} :
    FailsOnly Failure.isMarkerFault (o.apply x) ↔ o.IsTellable x := by
  rw [apply_eq, failsOnly_bind_iff, IsTellable]
  apply and_congr
  · rw [apply_override]
    cases o.override with
    | none => exact iff_of_true (failsOnly_ok _ x) (by simp)
    | some e => simp [Instant.failsOnly_markerFault_override_iff]
  · cases o.offset with
    | none => exact iff_of_true (fun y _ => failsOnly_ok _ y) (by simp)
    | some offset => simp [Instant.failsOnly_markerFault_offset_iff]

end Options

/-! ### Markers -/

namespace Anchor

/-- A day more or less is tellable. -/
theorem isTellable_days (a : Anchor) : ({ days := a.days } : Shift).IsTellable := by
  have hshift : ({ days := a.days } : Shift) = Assignment.offsetShift a.days ⟨.day, 1⟩ := by
    simp [Assignment.offsetShift]
  have hdays : a.days.natAbs ≤ 1 := by cases a <;> decide
  have hlarge := Shift.limit_large
  have hsize : (⟨.day, 1⟩ : Assignment).size = 1 := by decide
  rw [hshift, Assignment.isTellable_offsetShift_iff, Assignment.IsTellableOffset, hsize]
  omega

/-- The reference of a marker is an instant, if the present is one. -/
theorem exists_instant_of_reference {a : Anchor} {x : Instant} {v : Value}
    (h : a.reference (.instant x) = .ok v) : ∃ z, v = .instant z := by
  unfold reference Value.daysAway at h
  split at h
  · cases h
    exact ⟨x, rfl⟩
  · rw [Value.shift_instant] at h
    obtain ⟨z, -, rfl⟩ := map_eq_ok_iff.mp h
    exact ⟨z, rfl⟩

theorem failsOnly_reference (a : Anchor) (x : Instant) :
    FailsOnly Failure.isMarkerFault (a.reference (.instant x)) := by
  unfold reference Value.daysAway
  split
  · exact failsOnly_ok _ _
  · rw [Value.shift_instant, failsOnly_map_iff,
      Instant.failsOnly_markerFault_iff fun _ => Instant.isMarkerFault_of_shift]
    exact Instant.failsOnly_shift a.isTellable_days x

end Anchor

namespace Settings

/-- Usable settings have a date pattern for all options that were read. -/
theorem IsUsable.exists_readPattern {s : Settings} (hs : s.IsUsable) {text : Option String}
    {o : Options} (h : Options.parse text = .ok o) : ∃ p, readPattern (s.formatFor o) = .ok p := by
  unfold formatFor
  split
  · next format hformat =>
      obtain ⟨p, hp⟩ := Options.exists_pattern_of_parse h format hformat
      exact ⟨p, mapError_eq_ok_iff.mpr hp⟩
  · split
    · exact hs.datetimeFormat
    · exact hs.dateFormat

theorem format_eq {s : Settings} {o : Options} {x : Instant} {p : Pattern} {l : Locale}
    (hp : readPattern (s.formatFor o) = .ok p) (hl : readLocale s.locale = .ok l) :
    s.format o x = p.format l x := by
  unfold format write
  rw [hp, hl]
  rfl

end Settings

namespace Marker

/-- A marker whose failures, if it has any, are all its own: it reaches no amount that is not
tellable, and no field that cannot be written. -/
def IsIsolated (s : Settings) (x : Instant) (m : Marker) : Prop :=
  ∀ z o, m.anchor.reference (.instant x) = .ok (.instant z) →
    Options.parse m.optionText = .ok o → o.IsTellable z ∧
      ∀ y p l, o.apply z = .ok y → Settings.readPattern (s.formatFor o) = .ok p →
        Settings.readLocale s.locale = .ok l → ∀ i ∈ p, Format.IsWritableItem l y i

theorem failsOnly_render_iff {s : Settings} (hs : s.IsUsable) {x : Instant} {m : Marker} :
    FailsOnly Failure.isMarkerFault (m.render s (.instant x)) ↔ m.IsIsolated s x := by
  obtain ⟨l, hl⟩ := hs.locale
  -- Pattern and locale are always found, so a format fails only at a field.
  have hformat : ∀ o y, Options.parse m.optionText = .ok o →
      (FailsOnly Failure.isMarkerFault (s.format o y) ↔
        ∀ p l, Settings.readPattern (s.formatFor o) = .ok p → Settings.readLocale s.locale = .ok l →
          ∀ i ∈ p, Format.IsWritableItem l y i) := by
    intro o y ho
    obtain ⟨p, hp⟩ := hs.exists_readPattern ho
    rw [Settings.format_eq hp hl, failsOnly_iff_exists fun _ => Pattern.isMarkerFault_of_format,
      Pattern.exists_format_iff]
    constructor
    · intro h p' l' hp' hl'
      cases hp.symm.trans hp'
      cases hl.symm.trans hl'
      exact h
    · intro h
      exact h p l hp hl
  unfold render Anchor.render Settings.renderText IsIsolated
  rw [failsOnly_bind_iff, and_iff_right (m.anchor.failsOnly_reference x)]
  constructor
  · intro h z o hz ho
    have hrender := (failsOnly_bind_iff.mp (h _ hz)).2 o ho
    obtain ⟨happly, hrest⟩ := failsOnly_bind_iff.mp hrender
    refine ⟨Options.failsOnly_apply_iff.mp happly, fun y p l hy => ?_⟩
    exact (hformat o y ho).mp (hrest y hy) p l
  · intro h v hv
    obtain ⟨z, rfl⟩ := Anchor.exists_instant_of_reference hv
    refine failsOnly_bind_iff.mpr ⟨Options.failsOnly_parse _, fun o ho => ?_⟩
    obtain ⟨htell, hwrite⟩ := h z o hv ho
    refine failsOnly_bind_iff.mpr ⟨Options.failsOnly_apply_iff.mpr htell, fun y hy => ?_⟩
    exact (hformat o y ho).mpr fun p l => hwrite y p l hy

theorem escape?_eq_none_iff {answer : Marker → Except Failure String} {m : Marker} :
    escape? answer m = none ↔ FailsOnly Failure.isMarkerFault (answer m) := by
  unfold escape? failure?
  cases answer m with
  | ok text => exact iff_of_true rfl (failsOnly_ok _ text)
  | error failure => simp [FailsOnly, Option.filter_eq_none_iff]

end Marker

/-! ### Pages -/

/-- **A lenient rendering succeeds exactly if all its markers are isolated.** Then every marker is
replaced by what is shown for it, with one warning for each that is faulty. -/
theorem Session.lenient_succeeds_iff_isolated (s : Session) (clock : Nat → Instant) (x : Instant)
    (page : String) (hs : s.settings.IsAccepted) (hx : (s.takePresent clock).1 = .instant x) :
    let markers := Segment.markers (Segment.ofChars page.toList)
    let lenient := (s.renderPage clock page false).1
    ((∃ text, lenient.result = .ok text) ↔ ∀ m ∈ markers, m.IsIsolated s.settings x) ∧
      ∀ text, lenient.result = .ok text → text = s.shownPage clock page ∧
        lenient.warnings = markers.filterMap (Marker.warning? (s.answer clock)) := by
  have hisolated : ∀ m : Marker,
      Marker.ending? (s.answer clock) false m = none ↔ m.IsIsolated s.settings x := by
    intro m
    rw [← Marker.failsOnly_render_iff hs.isUsable, ← hx, answer_eq]
    exact Marker.escape?_eq_none_iff
  refine ⟨?_, fun text htext => ?_⟩
  · simp only [renderPage_eq_ok_iff, hisolated, exists_and_left, exists_eq, and_true]
  · obtain ⟨hall, rfl⟩ := renderPage_eq_ok_iff.mp htext
    refine ⟨rfl, ?_⟩
    rw [renderPage_warnings, List.takeWhile_eq_self_iff.mpr fun m hm => by rw [hall m hm]; rfl]

/-- A field without a rule is a date pattern, and ends the rendering of its page. -/
theorem Session.lenient_fails_at_unwritable_field :
    let s : Session := { settings := {} }
    let clock : Nat → Instant := fun _ => Instant.last
    let page := "a !now(-fg) b !now"
    s.settings.IsAccepted ∧ (s.takePresent clock).1 = .instant Instant.last ∧
      ¬ ∀ m ∈ Segment.markers (Segment.ofChars page.toList),
        m.IsIsolated s.settings Instant.last := by
  intro s clock page
  have hs : s.settings.IsAccepted := ⟨[], rfl⟩
  have hx : (s.takePresent clock).1 = .instant Instant.last := rfl
  refine ⟨hs, hx, fun h => ?_⟩
  obtain ⟨text, htext⟩ :=
    (lenient_succeeds_iff_isolated s clock Instant.last page hs hx).1.mpr h
  have hfails : (s.renderPage clock page false).1.result.isOk = false := by decide +kernel
  rw [htext] at hfails
  cases hfails

end WikiDates
