import WikiDates.Proofs.Substitution

/-!
# Sessions without memory

    step ──▶ answer (a result and its warnings), next session

A session keeps nothing from one step to the next but its present. `Step.answer` says what a step
answers when the settings and the present are known; a step lemma says that this is the answer of
every session with that present, and that the step leaves the present as it is. A run is then a list
of steps that are answered one by one, each as if it were alone.

`Session.run_eq_map_alone` states this for sessions whose base is void or an instant, and counts the
readings of the clock: there is one if the base is void and some step needs the present, and none
otherwise.
-/

namespace WikiDates

/-- What a user sees of an outcome: its result and its warnings. -/
def Outcome.answer {α : Type} (o : Outcome α) : Except Failure α × List Notice :=
  (o.result, o.warnings)

/-! ### Settings that differ in their base -/

theorem Marker.outcome_base (m : Marker) (s : Settings) (base present : Value) (strict : Bool) :
    m.outcome { s with base } present strict = m.outcome s present strict := rfl

theorem Segment.renderAll_base (s : Settings) (base present : Value) (strict : Bool)
    (parts : List Segment) :
    renderAll { s with base } present strict parts = renderAll s present strict parts := by
  induction parts with
  | nil => rfl
  | cons part parts ih =>
      cases part with
      | plain c => rw [renderAll, renderAll, ih]
      | marker m => rw [renderAll, renderAll, ih, Marker.outcome_base]

/-- The base of the settings has no part in rendering a page. -/
theorem Settings.renderPage_base (s : Settings) (base present : Value) (strict : Bool)
    (page : String) :
    ({ s with base } : Settings).renderPage present strict page =
      s.renderPage present strict page := by
  unfold renderPage
  rw [Segment.renderAll_base]

/-! ### Pages without markers -/

/-- Where no marker stands, there is nothing to tell. -/
theorem Segment.renderAll_of_no_markers {parts : List Segment} (h : markers parts = [])
    (s : Settings) (present : Value) (strict : Bool) :
    renderAll s present strict parts = ⟨.ok (parts.flatMap chars), []⟩ := by
  induction parts with
  | nil => rfl
  | cons part parts ih =>
      cases part with
      | plain c =>
          rw [renderAll, ih h]
          rfl
      | marker m => cases h

/-- A page without markers is handed back as it is. -/
theorem Settings.renderPage_of_no_markers {page : String}
    (h : (Marker.find page).isEmpty = true) (s : Settings) (present : Value) (strict : Bool) :
    s.renderPage present strict page = ⟨.ok page, []⟩ := by
  unfold Marker.find at h
  rw [Segment.isEmpty_located, List.isEmpty_iff] at h
  unfold renderPage
  rw [Segment.renderAll_of_no_markers h, Segment.flatMap_chars_ofChars]
  exact congrArg (fun text => (⟨.ok text, []⟩ : Outcome String)) String.ofList_toList

namespace Session

/-! ### What a step answers -/

/-- Whether a step needs the present. A name of no anchor is rejected without it, and a page without
markers is handed back without it. -/
def Step.needsPresent : Step → Bool
  | now => true
  | reference name | render name _ => (Anchor.ofName? name).isSome
  | page text _ => !(Marker.find text).isEmpty

/-- What a step answers, from the settings and the present. -/
def Step.answer (settings : Settings) (present : Value) : Step → Except Failure Value × List Notice
  | now => (.ok present, [])
  | reference name => (Anchor.named name >>= fun a => a.reference present, [])
  | render name text =>
    ((Anchor.named name >>= fun a => a.render settings present text).map .text, [])
  | page text strict =>
    let (result, warnings) := (settings.renderPage present strict text).answer
    (result.map .text, warnings)

theorem Step.answer_base (step : Step) (settings : Settings) (base present : Value) :
    step.answer { settings with base } present = step.answer settings present := by
  cases step with
  | now => rfl
  | reference name => rfl
  | render name text => rfl
  | page text strict =>
      simp only [Step.answer, Settings.renderPage_base]

section Steps

variable (s : Session) (clock : Nat → Instant)

theorem withPresent_answer {α : Type} (f : Value → Outcome α) :
    (s.withPresent clock f).1.answer = (f (s.takePresent clock).1).answer := by
  have hwarnings : (s.withPresent clock f).1.warnings =
      ((s.takePresent clock).2.2 ++ (f (s.takePresent clock).1).notices).filter
        fun n => n.level == .warning := rfl
  refine Prod.ext rfl ?_
  rw [Outcome.answer, hwarnings, List.filter_append, filter_takePresent, List.nil_append]
  rfl

theorem answer_reference (name : String) :
    (s.reference clock name).1.answer =
      (Anchor.named name >>= fun a => a.reference (s.takePresent clock).1, []) := by
  unfold Session.reference withAnchor
  cases Anchor.named name with
  | ok a => exact withPresent_answer s clock _
  | error failure => rfl

theorem answer_render (name : String) (text : Option String) :
    (s.render clock name text).1.answer =
      (Anchor.named name >>= fun a => a.render s.settings (s.takePresent clock).1 text, []) := by
  unfold Session.render withAnchor
  cases Anchor.named name with
  | ok a =>
      refine (withPresent_answer s clock _).trans (Prod.ext rfl ?_)
      exact Anchor.filter_renderNotices a s.settings _ text
  | error failure => rfl

theorem answer_renderPage (page : String) (strict : Bool) :
    (s.renderPage clock page strict).1.answer =
      (s.settings.renderPage (s.takePresent clock).1 strict page).answer := by
  unfold renderPage
  split
  · next hempty => rw [Settings.renderPage_of_no_markers hempty]
  · exact withPresent_answer s clock _

theorem step_render (name : String) (text : Option String) :
    s.step clock (.render name text) =
      (⟨(s.render clock name text).1.result.map .text, (s.render clock name text).1.notices⟩,
        (s.render clock name text).2) := rfl

theorem step_page (text : String) (strict : Bool) :
    s.step clock (.page text strict) =
      (⟨(s.renderPage clock text strict).1.result.map .text,
        (s.renderPage clock text strict).1.notices⟩, (s.renderPage clock text strict).2) := rfl

/-- The answer of a session to a step depends on its settings and its present alone. -/
theorem answer_step (step : Step) :
    (s.step clock step).1.answer = step.answer s.settings (s.takePresent clock).1 := by
  cases step with
  | now => exact withPresent_answer s clock _
  | reference name => exact answer_reference s clock name
  | render name text =>
      have hanswer := answer_render s clock name text
      rw [Outcome.answer, Prod.mk.injEq] at hanswer
      rw [step_render, Outcome.answer, hanswer.1]
      exact Prod.ext rfl hanswer.2
  | page text strict =>
      have hanswer := answer_renderPage s clock text strict
      rw [Outcome.answer, Prod.mk.injEq] at hanswer
      rw [step_page, Outcome.answer, hanswer.1]
      exact Prod.ext rfl hanswer.2

/-! ### What a step leaves behind -/

theorem session_withAnchor {α : Type} (name : String) (f : Anchor → Value → Outcome α) :
    (s.withAnchor name fun a => s.withPresent clock (f a)).2 =
      if (Anchor.ofName? name).isSome then (s.takePresent clock).2.1 else s := by
  unfold withAnchor Anchor.named
  cases Anchor.ofName? name with
  | some a => rfl
  | none => rfl

/-- A step takes the present if it needs it, and changes nothing otherwise. -/
theorem session_step (step : Step) :
    (s.step clock step).2 = if step.needsPresent then (s.takePresent clock).2.1 else s := by
  cases step with
  | now => rfl
  | reference name => exact session_withAnchor s clock name _
  | render name text =>
      exact session_withAnchor s clock name fun a present =>
        ⟨a.render s.settings present text, a.renderNotices s.settings present text⟩
  | page text strict =>
      rw [step_page]
      unfold renderPage
      split
      · next hempty => simp [Step.needsPresent, hempty]
      · next hempty => simp [Step.needsPresent, hempty, withPresent]

theorem settings_step (step : Step) : (s.step clock step).2.settings = s.settings := by
  rw [session_step]
  split
  · exact s.settings_takePresent clock
  · rfl

/-- A step does not change the present. -/
theorem takePresent_step (step : Step) :
    ((s.step clock step).2.takePresent clock).1 = (s.takePresent clock).1 := by
  rw [session_step]
  split
  · exact s.takePresent_of_taken clock
  · rfl

/-- Whether the clock is read when the present is needed. -/
def readsClock : Bool := s.present.isNone && s.settings.base.isVoid

theorem readings_takePresent :
    (s.takePresent clock).2.1.readings = s.readings + if s.readsClock then 1 else 0 := by
  unfold takePresent readsClock
  split
  · next h => simp [h]
  · next h =>
      split
      · next hvoid => simp [h, hvoid]
      · next hbase => simp [h, hbase]

/-- Once the present was taken, the clock is not read. -/
theorem readsClock_takePresent : (s.takePresent clock).2.1.readsClock = false := by
  unfold readsClock
  rw [present_takePresent]
  rfl

end Steps

/-! ### Runs -/

theorem answers_run (s : Session) (clock : Nat → Instant) (steps : List Step) :
    (s.run clock steps).1.map Outcome.answer =
      steps.map (Step.answer s.settings (s.takePresent clock).1) := by
  induction steps generalizing s with
  | nil => rfl
  | cons step steps ih =>
      have hrest := ih (s.step clock step).2
      rw [settings_step, takePresent_step] at hrest
      show (s.step clock step).1.answer :: ((s.step clock step).2.run clock steps).1.map _ = _
      rw [answer_step, hrest, List.map_cons]

theorem readings_run (s : Session) (clock : Nat → Instant) (steps : List Step) :
    (s.run clock steps).2.readings =
      s.readings + if s.readsClock && steps.any Step.needsPresent then 1 else 0 := by
  induction steps generalizing s with
  | nil => simp [run]
  | cons step steps ih =>
      show ((s.step clock step).2.run clock steps).2.readings = _
      rw [ih, session_step, List.any_cons]
      cases step.needsPresent with
      | true => simp [readings_takePresent, readsClock_takePresent]
      | false => simp

theorem session_run_append (s : Session) (clock : Nat → Instant) (before after : List Step) :
    (s.run clock (before ++ after)).2 = ((s.run clock before).2.run clock after).2 := by
  induction before generalizing s with
  | nil => rfl
  | cons step before ih => exact ih (s.step clock step).2

/-- A new session with the given base, or without one. -/
def withBase (settings : Settings) (base : Option Instant) : Session where
  settings := { settings with base := base.elim .null .instant }

theorem settings_withBase (settings : Settings) (base : Option Instant) :
    (withBase settings base).settings = { settings with base := base.elim .null .instant } := rfl

theorem present_withBase (settings : Settings) (base : Option Instant) (clock : Nat → Instant) :
    ((withBase settings base).takePresent clock).1 = .instant (base.getD (clock 0)) := by
  cases base with
  | none => rfl
  | some x => rfl

theorem readsClock_withBase (settings : Settings) (base : Option Instant) :
    (withBase settings base).readsClock = base.isNone := by
  cases base with
  | none => rfl
  | some x => rfl

/-- **A session has one present and no memory.** Every step of a run is answered as it would be
alone in a new session with the present as its base. The clock is read once if there is no base and
some step needs the present, and not at all otherwise; a step that does not need the present leaves
the session as it is. -/
theorem run_eq_map_alone (settings : Settings) (base : Option Instant) (clock : Nat → Instant)
    (steps : List Step) :
    let present := base.getD (clock 0)
    let session := withBase settings base
    (∀ clock', (session.run clock steps).1.map Outcome.answer =
      steps.map fun step =>
        ((withBase settings (some present)).step clock' step).1.answer) ∧
    (session.run clock steps).2.readings =
      (if base.isNone && steps.any Step.needsPresent then 1 else 0) ∧
    ∀ step : Step, step.needsPresent = false →
      (session.run clock (steps ++ [step])).2 = (session.run clock steps).2 := by
  refine ⟨fun clock' => ?_, ?_, fun step hstep => ?_⟩
  · rw [answers_run, present_withBase]
    refine List.map_congr_left fun step _ => ?_
    rw [answer_step, present_withBase, Option.getD_some, settings_withBase, settings_withBase]
    exact (step.answer_base settings _ _).trans (step.answer_base settings _ _).symm
  · rw [readings_run, readsClock_withBase, withBase, Nat.zero_add]
  · rw [session_run_append]
    show (Session.step _ clock step).2 = _
    rw [session_step, hstep]
    rfl

end Session
end WikiDates
