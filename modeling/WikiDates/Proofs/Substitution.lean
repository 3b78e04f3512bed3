import Mathlib.Data.List.TakeWhile
import WikiDates.Session

/-!
# Pages as substitutions

A page is cut into characters and markers, and a session has an answer to every marker: a text or a
failure. Rendering the page puts the answers in the places of the markers and leaves the rest as it
is, without reading again what it has put there.

`Session.renderPage_substitutes` says this of both ways to render. A strict rendering ends with the
first failure. A lenient one ends with the first failure that is not the fault of a marker, and
gives one warning for every fault that it has passed by then.
-/

namespace WikiDates

/-! ### The parts of a page -/

namespace Segment

/-- The marker that a part is, if it is one. -/
def marker? : Segment → Option Marker
  | plain _ => none
  | marker m => some m

/-- The characters of a part, with a text in the place of a marker. -/
def replaced (text : Marker → String) : Segment → List Char
  | plain c => [c]
  | marker m => (text m).toList

/-- The markers among parts of a page, in order. -/
def markers (parts : List Segment) : List Marker := parts.filterMap marker?

@[simp] theorem markers_plain (c : Char) (parts : List Segment) :
    markers (plain c :: parts) = markers parts := rfl

@[simp] theorem markers_marker (m : Marker) (parts : List Segment) :
    markers (marker m :: parts) = m :: markers parts := rfl

/-- Cutting a page takes nothing away. -/
theorem flatMap_chars_ofChars (cs : List Char) : (ofChars cs).flatMap chars = cs := by
  induction cs using ofChars.induct with
  | case1 cs m rest h ih =>
      rw [ofChars]
      split
      · next m' rest' h' =>
          cases h.symm.trans h'
          rw [List.flatMap_cons, ih]
          exact (Marker.read?_eq_some h).symm
      · next h' => cases h.symm.trans h'
  | case2 h =>
      rw [ofChars]
      split
      · next h' => cases h.symm.trans h'
      · rfl
  | case3 c rest h ih =>
      rw [ofChars]
      split
      · next h' => cases h.symm.trans h'
      · rw [List.flatMap_cons, ih]
        rfl

theorem isEmpty_located (start : Nat) (parts : List Segment) :
    (located start parts).isEmpty = (markers parts).isEmpty := by
  induction parts generalizing start with
  | nil => rfl
  | cons part parts ih =>
      cases part with
      | plain c => exact ih (start + 1)
      | marker m => rfl

theorem flatMap_replaced_of_markers {parts : List Segment} (h : markers parts = [])
    (text : Marker → String) : parts.flatMap (replaced text) = parts.flatMap chars := by
  induction parts with
  | nil => rfl
  | cons part parts ih =>
      cases part with
      | plain c =>
          rw [List.flatMap_cons, List.flatMap_cons, ih h]
          rfl
      | marker m => cases h

end Segment

/-! ### Answers to markers -/

namespace Marker

variable (answer : Marker → Except Failure String)

/-- The failure that answers a marker. -/
def failure? (m : Marker) : Option Failure :=
  match answer m with
  | .ok _ => none
  | .error failure => some failure

/-- The failure that answers a marker and is not its fault. -/
def escape? (m : Marker) : Option Failure :=
  (failure? answer m).filter fun failure => !failure.isMarkerFault

/-- The failure with which a marker ends the rendering of its page. -/
def ending? (strict : Bool) : Marker → Option Failure :=
  if strict then failure? answer else escape? answer

/-- What is shown in the place of a marker. -/
def shown (m : Marker) : String :=
  match answer m with
  | .ok text => text
  | .error failure => m.faultText failure

/-- The warning about a marker. -/
def warning? (m : Marker) : Option Notice := (failure? answer m).map (.faultyMarker m)

end Marker

/-- The warnings of an outcome, in order. -/
def Outcome.warnings {α : Type} (o : Outcome α) : List Notice :=
  o.notices.filter fun n => n.level == .warning

/-! ### The notices of a single rendering -/

theorem Options.level_of_mem_parseNotices {text : Option String} {n : Notice}
    (h : n ∈ parseNotices text) : n.level = .debug := by
  unfold parseNotices at h
  split at h
  · rw [List.mem_singleton.mp h]
    rfl
  · cases h

theorem Options.level_of_mem_applyNotices {o : Options} {x : Instant} {n : Notice}
    (h : n ∈ o.applyNotices x) : n.level = .debug := by
  unfold applyNotices at h
  rcases List.mem_append.mp h with h | h
  · split at h
    · rw [List.mem_singleton.mp h]
      rfl
    · cases h
  · split at h
    · rw [List.mem_singleton.mp h]
      rfl
    · cases h

theorem Settings.level_of_mem_renderNotices {s : Settings} {v : Value} {o : Options} {n : Notice}
    (h : n ∈ s.renderNotices v o) : n.level = .debug := by
  unfold renderNotices at h
  split at h
  · rcases List.mem_append.mp h with h | h
    · exact Options.level_of_mem_applyNotices h
    · split at h
      · rcases List.mem_cons.mp h with rfl | h
        · rfl
        · split at h
          · rw [List.mem_singleton.mp h]
            rfl
          · cases h
      · cases h
  · cases h

/-- What a single rendering has to tell is for debugging. -/
theorem Anchor.level_of_mem_renderNotices {a : Anchor} {s : Settings} {v : Value}
    {text : Option String} {n : Notice} (h : n ∈ a.renderNotices s v text) : n.level = .debug := by
  unfold renderNotices at h
  split at h
  · rcases List.mem_append.mp h with h | h
    · exact Options.level_of_mem_parseNotices h
    · split at h
      · exact Settings.level_of_mem_renderNotices h
      · cases h
  · cases h

theorem Anchor.filter_renderNotices (a : Anchor) (s : Settings) (v : Value)
    (text : Option String) :
    (a.renderNotices s v text).filter (fun n => n.level == .warning) = [] := by
  rw [List.filter_eq_nil_iff]
  intro n hn
  simp [level_of_mem_renderNotices hn]

/-! ### Markers and parts of a page -/

namespace Marker

variable {s : Settings} {present : Value} {strict : Bool} {m : Marker}

theorem outcome_of_ending {failure : Failure}
    (h : ending? (fun m => m.render s present) strict m = some failure) :
    m.outcome s present strict =
      ⟨.error failure, m.anchor.renderNotices s present m.optionText⟩ := by
  unfold outcome
  unfold ending? escape? failure? at h
  cases hr : m.render s present with
  | ok text => cases strict <;> simp [hr] at h
  | error failure' =>
      cases strict with
      | true =>
          simp only [hr, if_true, Option.some.injEq] at h
          simp [h]
      | false =>
          simp only [hr, Bool.false_eq_true, if_false, Option.filter_eq_some_iff,
            Option.some.injEq] at h
          obtain ⟨rfl, hfault⟩ := h
          simp_all

theorem outcome_of_not_ending (h : ending? (fun m => m.render s present) strict m = none) :
    (m.outcome s present strict).result = .ok (shown (fun m => m.render s present) m) ∧
      (m.outcome s present strict).warnings =
        (warning? (fun m => m.render s present) m).toList := by
  unfold outcome
  unfold ending? escape? failure? at h
  cases hr : m.render s present with
  | ok text => simp [shown, warning?, failure?, hr, Outcome.warnings, Anchor.filter_renderNotices]
  | error failure =>
      cases strict with
      | true => simp [hr] at h
      | false =>
          have hfault : failure.isMarkerFault = true := by simpa [hr] using h
          simp only [shown, warning?, failure?, hr, hfault, Outcome.warnings, Bool.not_false,
            Bool.and_self, if_true, List.filter_append, Anchor.filter_renderNotices]
          exact ⟨trivial, rfl⟩

end Marker

namespace Segment

variable {s : Settings} {present : Value} {strict : Bool}

theorem renderAll_of_error {m : Marker} {rest : List Segment} {failure : Failure}
    (h : (m.outcome s present strict).result = .error failure) :
    renderAll s present strict (marker m :: rest) =
      ⟨.error failure, (m.outcome s present strict).notices⟩ := by
  rw [renderAll]
  cases ho : m.outcome s present strict with
  | mk result told =>
      rw [ho] at h
      simp only at h
      rw [h]

theorem renderAll_of_ok {m : Marker} {rest : List Segment} {text : String}
    (h : (m.outcome s present strict).result = .ok text) :
    renderAll s present strict (marker m :: rest) =
      ⟨(renderAll s present strict rest).result.map (text.toList ++ ·),
        (m.outcome s present strict).notices ++ (renderAll s present strict rest).notices⟩ := by
  rw [renderAll]
  cases ho : m.outcome s present strict with
  | mk result told =>
      rw [ho] at h
      simp only at h
      rw [h]

/-- Rendering ends with the first failure that ends it, and puts a text in the place of every marker
if there is none. -/
theorem renderAll_result (parts : List Segment) :
    (renderAll s present strict parts).result =
      ((markers parts).findSome? (Marker.ending? (fun m => m.render s present) strict)).elim
        (.ok (parts.flatMap (replaced (Marker.shown fun m => m.render s present)))) .error := by
  induction parts with
  | nil => rfl
  | cons part parts ih =>
      cases part with
      | plain c =>
          rw [renderAll, markers_plain, ih]
          cases (markers parts).findSome? _ <;> rfl
      | marker m =>
          rw [markers_marker, List.findSome?_cons]
          cases h : Marker.ending? (fun m => m.render s present) strict m with
          | some failure => rw [renderAll_of_error (by rw [Marker.outcome_of_ending h])]; rfl
          | none =>
              rw [renderAll_of_ok (Marker.outcome_of_not_ending h).1, ih]
              cases (markers parts).findSome? _ <;> rfl

/-- There is a warning about every faulty marker that rendering passes. -/
theorem renderAll_warnings (parts : List Segment) :
    (renderAll s present strict parts).warnings =
      ((markers parts).takeWhile fun m =>
        (Marker.ending? (fun m => m.render s present) strict m).isNone).filterMap
          (Marker.warning? fun m => m.render s present) := by
  induction parts with
  | nil => rfl
  | cons part parts ih =>
      cases part with
      | plain c => exact ih
      | marker m =>
          rw [markers_marker, List.takeWhile_cons]
          cases h : Marker.ending? (fun m => m.render s present) strict m with
          | some failure =>
              have ho := Marker.outcome_of_ending h
              rw [renderAll_of_error (by rw [ho]), ho]
              exact Anchor.filter_renderNotices ..
          | none =>
              obtain ⟨hresult, hwarnings⟩ := Marker.outcome_of_not_ending h
              rw [renderAll_of_ok hresult]
              simp only [Option.isNone_none, if_true, List.filterMap_cons, Outcome.warnings,
                List.filter_append] at hwarnings ih ⊢
              rw [hwarnings, ih]
              cases Marker.warning? (fun m => m.render s present) m <;> rfl

end Segment

/-! ### Sessions -/

namespace Session

/-- The answer of a session to a marker. -/
def answer (s : Session) (clock : Nat → Instant) (m : Marker) : Except Failure String :=
  (s.render clock m.anchor.name m.optionText).1.result

/-- The text of a page with what is shown in the places of its markers. -/
def shownPage (s : Session) (clock : Nat → Instant) (page : String) : String :=
  String.ofList ((Segment.ofChars page.toList).flatMap
    (Segment.replaced (Marker.shown (s.answer clock))))

theorem answer_eq (s : Session) (clock : Nat → Instant) :
    s.answer clock = fun m => m.render s.settings (s.takePresent clock).1 := by
  funext m
  unfold answer render withAnchor
  rw [Anchor.named_name]
  rfl

theorem present_takePresent (s : Session) (clock : Nat → Instant) :
    (s.takePresent clock).2.1.present = some (s.takePresent clock).1 := by
  unfold takePresent
  split
  · next h => exact h
  · split <;> rfl

/-- A session keeps its present once it has taken it. -/
theorem takePresent_of_taken (s : Session) (clock : Nat → Instant) :
    ((s.takePresent clock).2.1.takePresent clock).1 = (s.takePresent clock).1 := by
  rw [takePresent, present_takePresent]

theorem settings_takePresent (s : Session) (clock : Nat → Instant) :
    (s.takePresent clock).2.1.settings = s.settings := by
  unfold takePresent
  split
  · rfl
  · split <;> rfl

/-- An answer does not depend on what the session was asked before. -/
theorem answer_after_render (s : Session) (clock : Nat → Instant) (name : String)
    (text : Option String) : (s.render clock name text).2.answer clock = s.answer clock := by
  have h : (s.render clock name text).2 = s ∨
      (s.render clock name text).2 = (s.takePresent clock).2.1 := by
    unfold render withAnchor
    cases Anchor.named name with
    | ok a => exact Or.inr rfl
    | error failure => exact Or.inl rfl
  rcases h with h | h
  · rw [h]
  · rw [h, answer_eq, answer_eq, takePresent_of_taken, settings_takePresent]

theorem filter_takePresent (s : Session) (clock : Nat → Instant) :
    (s.takePresent clock).2.2.filter (fun n => n.level == .warning) = [] := by
  unfold takePresent
  split
  · rfl
  · split <;> rfl

theorem renderPage_result (s : Session) (clock : Nat → Instant) (page : String) (strict : Bool) :
    (s.renderPage clock page strict).1.result =
      ((Segment.markers (Segment.ofChars page.toList)).findSome?
        (Marker.ending? (s.answer clock) strict)).elim (.ok (s.shownPage clock page)) .error := by
  unfold renderPage Marker.find
  rw [Segment.isEmpty_located]
  split
  · next h =>
      -- The present is not taken for a page without markers, which is handed back as it is.
      have hnone := List.isEmpty_iff.mp h
      rw [hnone, shownPage, Segment.flatMap_replaced_of_markers hnone,
        Segment.flatMap_chars_ofChars, String.ofList_toList]
      rfl
  · have hresult : (s.withPresent clock fun present =>
          s.settings.renderPage present strict page).1.result =
        (Segment.renderAll s.settings (s.takePresent clock).1 strict
          (Segment.ofChars page.toList)).result.map String.ofList := rfl
    rw [hresult, Segment.renderAll_result, answer_eq, shownPage, answer_eq]
    cases (Segment.markers _).findSome? _ <;> rfl

theorem renderPage_warnings (s : Session) (clock : Nat → Instant) (page : String)
    (strict : Bool) :
    (s.renderPage clock page strict).1.warnings =
      ((Segment.markers (Segment.ofChars page.toList)).takeWhile fun m =>
        (Marker.ending? (s.answer clock) strict m).isNone).filterMap
          (Marker.warning? (s.answer clock)) := by
  unfold renderPage Marker.find
  rw [Segment.isEmpty_located]
  split
  · next h =>
      rw [List.isEmpty_iff.mp h]
      rfl
  · have hnotices : (s.withPresent clock fun present =>
          s.settings.renderPage present strict page).1.notices =
        (s.takePresent clock).2.2 ++ (Segment.renderAll s.settings (s.takePresent clock).1 strict
          (Segment.ofChars page.toList)).notices := rfl
    rw [Outcome.warnings, hnotices, List.filter_append, filter_takePresent, List.nil_append,
      answer_eq]
    exact Segment.renderAll_warnings _

theorem renderPage_eq_ok_iff {s : Session} {clock : Nat → Instant} {page text : String}
    {strict : Bool} :
    (s.renderPage clock page strict).1.result = .ok text ↔
      (∀ m ∈ Segment.markers (Segment.ofChars page.toList),
        Marker.ending? (s.answer clock) strict m = none) ∧ text = s.shownPage clock page := by
  rw [renderPage_result, ← List.findSome?_eq_none_iff]
  cases (Segment.markers _).findSome? _ with
  | some failure => simp
  | none => simp [eq_comm]

/-- A strict rendering goes well exactly if a lenient one does without a warning. -/
theorem strict_eq_ok_iff_lenient {s : Session} {clock : Nat → Instant} {page text : String} :
    (s.renderPage clock page true).1.result = .ok text ↔
      (s.renderPage clock page false).1.result = .ok text ∧
        (s.renderPage clock page false).1.warnings = [] := by
  rw [renderPage_eq_ok_iff, renderPage_eq_ok_iff, renderPage_warnings, List.filterMap_eq_nil_iff]
  constructor
  · rintro ⟨hall, htext⟩
    refine ⟨⟨fun m hm => ?_, htext⟩, fun m hm => ?_⟩
    · have h : Marker.failure? (s.answer clock) m = none := hall m hm
      simp [Marker.ending?, Marker.escape?, h]
    · have h : Marker.failure? (s.answer clock) m = none :=
        hall m ((List.takeWhile_prefix _).subset hm)
      simp [Marker.warning?, h]
  · rintro ⟨⟨hall, htext⟩, hnone⟩
    refine ⟨fun m hm => ?_, htext⟩
    -- No marker ends the lenient rendering, so it passes and warns about all of them.
    rw [List.takeWhile_eq_self_iff.mpr (fun m hm => by rw [hall m hm]; rfl)] at hnone
    exact Option.map_eq_none_iff.mp (hnone m hm)

end Session
end WikiDates
