import WikiDates.Proofs.Isolation

/-!
# What renderings report

A rendering takes its settings as they are. Whatever they hold, and with an instant for the present,
it does not fail with a fault of the settings (`Marker.failsOnly_render_ofRendering`,
`Session.failsOnly_renderPage_ofRendering`), so a failure of it is reported exactly if it is the
fault of a marker. On its way it has nothing to tell that is an error (`Session.isCalm_render`,
`Session.isCalm_renderPage`).

The failure of a strict rendering is that of the first marker that fails, and the failure of a
lenient one is never the fault of a marker.
-/

namespace WikiDates

open Results

/-! ### No rendering reports the settings -/

namespace Failure

/-- Whether a failure may be that of a rendering, which takes its settings as they are. -/
def isOfRendering : Failure → Bool
  | setting _ => false
  | _ => true

variable {failure : Failure}

theorem isOfRendering_of_isMarkerFault (h : failure.isMarkerFault = true) :
    failure.isOfRendering = true := by
  unfold isOfRendering
  split
  · cases h
  · rfl

theorem isOfRendering_of_not_reported (h : failure.isReported = false) :
    failure.isOfRendering = true := by
  unfold isOfRendering
  split
  · cases h
  · rfl

/-- A failure of a rendering is reported exactly if it is the fault of a marker. -/
theorem isReported_of_isOfRendering (h : failure.isOfRendering = true) :
    failure.isReported = failure.isMarkerFault := by
  unfold isReported
  split
  · cases h
  · rfl

end Failure

namespace Instant

theorem failsOnly_shift_ofRendering (x : Instant) (s : Shift) :
    FailsOnly Failure.isOfRendering (x.shift s) := by
  intro failure h
  rcases shift_eq_error_iff.mp h with ⟨-, rfl⟩ | ⟨-, fault, -, rfl⟩
  · rfl
  · unfold Shift.failure
    split
    · rfl
    · split <;> rfl

theorem failsOnly_overrideOne_ofRendering (x : Instant) (a : Assignment) :
    FailsOnly Failure.isOfRendering (x.overrideOne a) := by
  unfold overrideOne
  split
  · intro failure h
    cases h
    rfl
  · exact failsOnly_shift_ofRendering x _

end Instant

theorem Options.failsOnly_apply_ofRendering (o : Options) (x : Instant) :
    FailsOnly Failure.isOfRendering (o.apply x) := by
  rw [apply_eq, apply_override, failsOnly_bind_iff]
  constructor
  · split
    · exact failsOnly_foldlM Instant.failsOnly_overrideOne_ofRendering x _
    · exact failsOnly_ok _ x
  · intro y _
    split
    · exact failsOnly_foldlM (fun z a => Instant.failsOnly_shift_ofRendering z _) y _
    · exact failsOnly_ok _ y

namespace Settings

theorem failsOnly_readPattern_ofRendering (v : Value) :
    FailsOnly Failure.isOfRendering (readPattern v) := by
  intro failure h
  unfold readPattern at h
  split at h
  · obtain ⟨fault, -, rfl⟩ := mapError_eq_error_iff.mp h
    rfl
  · cases h
    rfl

theorem failsOnly_readLocale_ofRendering (v : Value) :
    FailsOnly Failure.isOfRendering (readLocale v) := by
  intro failure h
  unfold readLocale at h
  split at h
  · obtain ⟨fault, -, rfl⟩ := mapError_eq_error_iff.mp h
    rfl
  · split at h
    · cases h
      rfl
    · cases h
      rfl

theorem failsOnly_format_ofRendering (s : Settings) (o : Options) (x : Instant) :
    FailsOnly Failure.isOfRendering (s.format o x) := by
  unfold format write
  refine failsOnly_bind_iff.mpr ⟨failsOnly_readPattern_ofRendering _, fun p _ => ?_⟩
  refine failsOnly_bind_iff.mpr ⟨failsOnly_readLocale_ofRendering _, fun l _ => ?_⟩
  intro failure h
  exact Failure.isOfRendering_of_not_reported (Pattern.isReported_of_format h)

end Settings

/-- A marker never fails with a fault of the settings. -/
theorem Marker.failsOnly_render_ofRendering (m : Marker) (s : Settings) (x : Instant) :
    FailsOnly Failure.isOfRendering (m.render s (.instant x)) := by
  unfold render Anchor.render Settings.renderText
  refine failsOnly_bind_iff.mpr ⟨?_, fun v hv => ?_⟩
  · exact (m.anchor.failsOnly_reference x).mono fun _ => Failure.isOfRendering_of_isMarkerFault
  · obtain ⟨z, rfl⟩ := Anchor.exists_instant_of_reference hv
    refine failsOnly_bind_iff.mpr ⟨?_, fun o _ => ?_⟩
    · exact (Options.failsOnly_parse _).mono fun _ => Failure.isOfRendering_of_isMarkerFault
    · exact failsOnly_bind_iff.mpr
        ⟨o.failsOnly_apply_ofRendering z, fun y _ => s.failsOnly_format_ofRendering o y⟩

/-! ### No rendering tells of an error -/

/-- Nothing that an outcome has to tell is an error. -/
def Outcome.IsCalm {α : Type} (o : Outcome α) : Prop := ∀ n ∈ o.notices, n.level ≠ .error

theorem Outcome.isCalm_of_nil {α : Type} (r : Except Failure α) : (⟨r, []⟩ : Outcome α).IsCalm := by
  intro n hn
  cases hn

theorem Anchor.isCalm_renderNotices {a : Anchor} {s : Settings} {v : Value} {text : Option String}
    {n : Notice} (hn : n ∈ a.renderNotices s v text) : n.level ≠ .error := by
  rw [level_of_mem_renderNotices hn]
  decide

theorem Marker.isCalm_outcome (m : Marker) (s : Settings) (present : Value) (strict : Bool) :
    (m.outcome s present strict).IsCalm := by
  unfold outcome
  dsimp only
  split
  · exact fun n hn => Anchor.isCalm_renderNotices hn
  · split
    · intro n hn
      rcases List.mem_append.mp hn with hn | hn
      · exact Anchor.isCalm_renderNotices hn
      · rw [List.mem_singleton.mp hn]
        intro h
        cases h
    · exact fun n hn => Anchor.isCalm_renderNotices hn

theorem Segment.isCalm_renderAll (s : Settings) (present : Value) (strict : Bool)
    (parts : List Segment) : (renderAll s present strict parts).IsCalm := by
  induction parts with
  | nil => exact Outcome.isCalm_of_nil _
  | cons part parts ih =>
      cases part with
      | plain c => exact ih
      | marker m =>
          have hm := m.isCalm_outcome s present strict
          cases h : (m.outcome s present strict).result with
          | error failure =>
              rw [renderAll_of_error h]
              exact hm
          | ok text =>
              rw [renderAll_of_ok h]
              intro n hn
              rcases List.mem_append.mp hn with hn | hn
              · exact hm n hn
              · exact ih n hn

namespace Session

theorem level_of_mem_takePresent {s : Session} {clock : Nat → Instant} {n : Notice}
    (hn : n ∈ (s.takePresent clock).2.2) : n.level = .debug := by
  unfold takePresent at hn
  split at hn
  · cases hn
  · split at hn
    · rw [List.mem_singleton.mp hn]
      rfl
    · rw [List.mem_singleton.mp hn]
      rfl

theorem isCalm_withPresent {s : Session} {clock : Nat → Instant} {α : Type}
    {f : Value → Outcome α} (hf : ∀ v, (f v).IsCalm) : (s.withPresent clock f).1.IsCalm := by
  intro n hn
  rcases List.mem_append.mp hn with hn | hn
  · rw [level_of_mem_takePresent hn]
    decide
  · exact hf _ n hn

theorem isCalm_render (s : Session) (clock : Nat → Instant) (name : String)
    (text : Option String) : (s.render clock name text).1.IsCalm := by
  unfold render withAnchor
  split
  · exact isCalm_withPresent fun v n hn => Anchor.isCalm_renderNotices hn
  · exact Outcome.isCalm_of_nil _

theorem isCalm_renderPage (s : Session) (clock : Nat → Instant) (page : String) (strict : Bool) :
    (s.renderPage clock page strict).1.IsCalm := by
  unfold renderPage
  split
  · exact Outcome.isCalm_of_nil _
  · exact isCalm_withPresent fun v => Segment.isCalm_renderAll s.settings v strict _

/-- A session with accepted settings has an instant for its present. -/
theorem exists_present {s : Session} (hs : s.settings.IsAccepted) (hnew : s.present = none)
    (clock : Nat → Instant) : ∃ x, (s.takePresent clock).1 = .instant x := by
  unfold takePresent
  rw [hnew]
  rcases hs.isUsable.base with hbase | ⟨x, hbase⟩
  · exact ⟨clock s.readings, by rw [hbase]; rfl⟩
  · exact ⟨x, by rw [hbase]; rfl⟩

end Session

/-! ### The first marker that fails -/

namespace Marker

variable {answer : Marker → Except Failure String} {m : Marker} {failure : Failure}

theorem failure?_eq_some_iff : failure? answer m = some failure ↔ answer m = .error failure := by
  unfold failure?
  cases answer m with
  | ok text => simp
  | error failure' => simp

theorem failure?_eq_none_iff : failure? answer m = none ↔ ∃ text, answer m = .ok text := by
  unfold failure?
  cases answer m with
  | ok text => simp
  | error failure => simp

end Marker

/-- The first of some markers that fails does so with this failure. -/
def Marker.FailsFirst (answer : Marker → Except Failure String) (markers : List Marker)
    (failure : Failure) : Prop :=
  ∃ before m after, markers = before ++ m :: after ∧ answer m = .error failure ∧
    ∀ m' ∈ before, ∃ text, answer m' = .ok text

namespace Session

variable {s : Session} {clock : Nat → Instant} {page : String} {failure : Failure}

theorem renderPage_eq_error_iff {strict : Bool} :
    (s.renderPage clock page strict).1.result = .error failure ↔
      (Segment.markers (Segment.ofChars page.toList)).findSome?
        (Marker.ending? (s.answer clock) strict) = some failure := by
  rw [renderPage_result]
  cases (Segment.markers _).findSome? _ <;> simp

/-- A strict rendering fails as the first marker that fails. -/
theorem strict_eq_error_iff :
    (s.renderPage clock page true).1.result = .error failure ↔
      Marker.FailsFirst (s.answer clock) (Segment.markers (Segment.ofChars page.toList))
        failure := by
  have hstrict : Marker.ending? (s.answer clock) true = Marker.failure? (s.answer clock) := rfl
  rw [renderPage_eq_error_iff, hstrict, List.findSome?_eq_some_iff]
  simp only [Marker.failure?_eq_some_iff, Marker.failure?_eq_none_iff]
  rfl

/-- A lenient rendering does not fail with the fault of a marker. -/
theorem isMarkerFault_of_lenient (h : (s.renderPage clock page false).1.result = .error failure) :
    failure.isMarkerFault = false := by
  obtain ⟨m, -, hm⟩ := List.exists_of_findSome?_eq_some (renderPage_eq_error_iff.mp h)
  simpa using (Option.filter_eq_some_iff.mp hm).2

/-- A page never fails with a fault of the settings. -/
theorem failsOnly_renderPage_ofRendering {x : Instant} (hx : (s.takePresent clock).1 = .instant x)
    (strict : Bool) :
    FailsOnly Failure.isOfRendering (s.renderPage clock page strict).1.result := by
  intro failure h
  obtain ⟨m, -, hm⟩ := List.exists_of_findSome?_eq_some (renderPage_eq_error_iff.mp h)
  have hanswer : s.answer clock m = .error failure := by
    cases strict with
    | true => exact Marker.failure?_eq_some_iff.mp hm
    | false => exact Marker.failure?_eq_some_iff.mp (Option.filter_eq_some_iff.mp hm).1
  rw [answer_eq, hx] at hanswer
  exact m.failsOnly_render_ofRendering s.settings x failure hanswer

end Session
end WikiDates
