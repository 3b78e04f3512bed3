import WikiDates.Proofs.Memoryless
import WikiDates.Proofs.Recognition

/-!
# Pages line by line

    text, newline, rest ──▶ rendering of the text, newline, rendering of the rest

A marker stands on one line: its name holds no newline and may end in front of one, and its block
ends on the line on which it starts or is no block. So a newline cuts a page into two pages, and the
parts of the page are those of the first, the newline, and those of the second
(`Segment.ofChars_append_newline`).

`Session.page_renders_line_by_line` follows this through a session: rendering a page is rendering
what stands in front of a newline and then, if that goes well, what stands behind it.
-/

namespace WikiDates

/-! ### Reading in front of a newline -/

namespace Marker

theorem isPrefixOf?_append_newline {lead : List Char} (h : '\n' ∉ lead) (cs rest : List Char) :
    lead.isPrefixOf? (cs ++ '\n' :: rest) = (lead.isPrefixOf? cs).map (· ++ '\n' :: rest) := by
  induction lead generalizing cs with
  | nil => rfl
  | cons l lead ih =>
      rw [List.mem_cons, not_or] at h
      cases cs with
      | nil =>
          show (if l == '\n' then lead.isPrefixOf? rest else none) = none
          exact if_neg (by simpa using Ne.symm h.1)
      | cons c cs =>
          show (if l == c then lead.isPrefixOf? (cs ++ '\n' :: rest) else none) =
            (if l == c then lead.isPrefixOf? cs else none).map (· ++ '\n' :: rest)
          split
          · exact ih h.2 cs
          · rfl

/-- No block reaches over a newline. -/
theorem untilClosing?_append_newline (cs rest : List Char) :
    untilClosing? (cs ++ '\n' :: rest) =
      (untilClosing? cs).map (Prod.map id (· ++ '\n' :: rest)) := by
  induction cs with
  | nil => rfl
  | cons c cs ih =>
      rw [List.cons_append, untilClosing?, untilClosing?, ih]
      split
      · rfl
      · split
        · rfl
        · rw [Option.map_map, Option.map_map]
          rfl

theorem readBlock?_append_newline (cs rest : List Char) :
    readBlock? (cs ++ '\n' :: rest) = (readBlock? cs).map (Prod.map id (· ++ '\n' :: rest)) := by
  cases cs with
  | nil => rfl
  | cons c cs =>
      rw [List.cons_append]
      unfold readBlock?
      split
      · next hopen =>
          cases hopen
          exact untilClosing?_append_newline cs rest
      · next hopen =>
          split
          · next hopen' =>
              cases hopen'
              exact absurd rfl (hopen _)
          · rfl

/-- A newline ends a name, as the end of the text does. -/
theorem endsName_append_newline (cs rest : List Char) :
    endsName (cs ++ '\n' :: rest) = endsName cs := by
  cases cs with
  | nil =>
      have hnewline : Text.isWordChar '\n' = false := by decide +kernel
      simp [endsName, hnewline]
  | cons c cs => rfl

theorem newline_notMem_head (a : Anchor) : '\n' ∉ head a := by
  cases a <;> decide

theorem readHead?_append_newline (cs rest : List Char) (a : Anchor) :
    readHead? (cs ++ '\n' :: rest) a =
      (readHead? cs a).map (Prod.map id (· ++ '\n' :: rest)) := by
  unfold readHead?
  rw [isPrefixOf?_append_newline (newline_notMem_head a)]
  cases (head a).isPrefixOf? cs with
  | none => rfl
  | some after =>
      rw [Option.map_some, Option.bind_some, Option.bind_some, endsName_append_newline]
      split
      · rfl
      · rfl

/-- What stands behind a newline has no part in reading a marker in front of it. -/
theorem read?_append_newline (cs rest : List Char) :
    read? (cs ++ '\n' :: rest) = (read? cs).map (Prod.map id (· ++ '\n' :: rest)) := by
  have hheads : Anchor.all.findSome? (readHead? (cs ++ '\n' :: rest)) =
      (Anchor.all.findSome? (readHead? cs)).map (Prod.map id (· ++ '\n' :: rest)) := by
    rw [funext (readHead?_append_newline cs rest), List.map_findSome?]
    rfl
  unfold read?
  rw [hheads]
  cases Anchor.all.findSome? (readHead? cs) with
  | none => rfl
  | some found =>
      obtain ⟨a, after⟩ := found
      simp only [Option.map_some, Prod.map, readBlock?_append_newline]
      cases readBlock? after with
      | none => rfl
      | some block => rfl

end Marker

/-! ### The parts of a page -/

namespace Segment

theorem ofChars_nil : ofChars [] = [] := by
  rw [ofChars]
  rfl

/-- A newline is outside all markers, and cuts a page into two. -/
theorem ofChars_append_newline (cs rest : List Char) :
    ofChars (cs ++ '\n' :: rest) = ofChars cs ++ plain '\n' :: ofChars rest := by
  have hread := Marker.read?_append_newline
  induction cs using ofChars.induct with
  | case1 cs m after h ih =>
      have hfront : Marker.read? (cs ++ '\n' :: rest) = some (m, after ++ '\n' :: rest) := by
        rw [hread, h]
        rfl
      rw [ofChars_of_marker hfront, ofChars_of_marker h, ih, List.cons_append]
  | case2 h =>
      have hnone : Marker.read? ('\n' :: rest) = none := by simpa [h] using hread [] rest
      rw [List.nil_append, ofChars_of_plain hnone, ofChars_nil, List.nil_append]
  | case3 c cs h ih =>
      have hnone : Marker.read? (c :: (cs ++ '\n' :: rest)) = none := by
        simpa [h] using hread (c :: cs) rest
      rw [List.cons_append, ofChars_of_plain hnone, ofChars_of_plain h, ih, List.cons_append]

theorem ofChars_page_append_newline (text rest : String) :
    ofChars (text ++ "\n" ++ rest).toList =
      ofChars text.toList ++ plain '\n' :: ofChars rest.toList := by
  rw [← ofChars_append_newline]
  simp

theorem markers_append (front back : List Segment) :
    markers (front ++ back) = markers front ++ markers back :=
  List.filterMap_append

end Segment

/-! ### One outcome after another -/

namespace Outcome

variable {α β γ δ ε ζ : Type}

/-- One outcome after another: what they result in is put together, and what they have to tell is
told in turn. The second is not reached if the first fails. -/
def andThen (first : Outcome α) (second : Outcome β) (f : α → β → γ) : Outcome γ :=
  match first.result with
  | .ok a => ⟨second.result.map (f a), first.notices ++ second.notices⟩
  | .error failure => ⟨.error failure, first.notices⟩

theorem andThen_of_ok {first : Outcome α} {a : α} (h : first.result = .ok a) (second : Outcome β)
    (f : α → β → γ) :
    first.andThen second f = ⟨second.result.map (f a), first.notices ++ second.notices⟩ := by
  unfold andThen
  rw [h]

theorem andThen_of_error {first : Outcome α} {failure : Failure} (h : first.result = .error failure)
    (second : Outcome β) (f : α → β → γ) :
    first.andThen second f = ⟨.error failure, first.notices⟩ := by
  unfold andThen
  rw [h]

theorem andThen_assoc {first : Outcome α} {second : Outcome β} {third : Outcome γ}
    {f : α → β → δ} {g : δ → γ → ε} {f' : α → ζ → ε} {g' : β → γ → ζ}
    (h : ∀ a b c, g (f a b) c = f' a (g' b c)) :
    (first.andThen second f).andThen third g = first.andThen (second.andThen third g') f' := by
  obtain ⟨a | a, told⟩ := first
  · rfl
  · obtain ⟨b | b, told'⟩ := second
    · rfl
    · obtain ⟨c | c, told''⟩ := third
      · simp [andThen, Except.map]
      · simp [andThen, Except.map, h]

end Outcome

namespace Segment

variable (s : Settings) (present : Value) (strict : Bool)

theorem renderAll_plain (c : Char) (parts : List Segment) :
    renderAll s present strict (plain c :: parts) =
      (⟨.ok c, []⟩ : Outcome Char).andThen (renderAll s present strict parts) List.cons := rfl

theorem renderAll_marker (m : Marker) (parts : List Segment) :
    renderAll s present strict (marker m :: parts) =
      (m.outcome s present strict).andThen (renderAll s present strict parts)
        (fun text cs => text.toList ++ cs) := by
  cases h : (m.outcome s present strict).result with
  | ok text => rw [renderAll_of_ok h, Outcome.andThen_of_ok h]
  | error failure => rw [renderAll_of_error h, Outcome.andThen_of_error h]

/-- Parts of a page are rendered from the left, up to the first that fails. -/
theorem renderAll_append (front back : List Segment) :
    renderAll s present strict (front ++ back) =
      (renderAll s present strict front).andThen (renderAll s present strict back) (· ++ ·) := by
  induction front with
  | nil =>
      rw [List.nil_append]
      obtain ⟨result | cs, told⟩ := renderAll s present strict back
      · rfl
      · rfl
  | cons part front ih =>
      cases part with
      | plain c =>
          rw [List.cons_append, renderAll_plain, renderAll_plain, ih, Outcome.andThen_assoc]
          exact fun _ _ _ => rfl
      | marker m =>
          rw [List.cons_append, renderAll_marker, renderAll_marker, ih, Outcome.andThen_assoc]
          exact fun text _ _ => List.append_assoc ..

end Segment

/-! ### Pages -/

namespace Settings

variable (s : Settings) (present : Value) (strict : Bool)

theorem renderPage_append_newline (text rest : String) :
    s.renderPage present strict (text ++ "\n" ++ rest) =
      (s.renderPage present strict text).andThen (s.renderPage present strict rest)
        (fun shown others => shown ++ "\n" ++ others) := by
  unfold renderPage
  rw [Segment.ofChars_page_append_newline, Segment.renderAll_append, Segment.renderAll_plain]
  obtain ⟨failure | cs, told⟩ := Segment.renderAll s present strict (Segment.ofChars text.toList)
  · rfl
  · obtain ⟨failure | cs', told'⟩ :=
      Segment.renderAll s present strict (Segment.ofChars rest.toList)
    · rfl
    · simp [Outcome.andThen, Except.map, String.ofList_append, String.append_assoc]

end Settings

theorem Marker.isEmpty_find_append_newline (text rest : String) :
    (find (text ++ "\n" ++ rest)).isEmpty = ((find text).isEmpty && (find rest).isEmpty) := by
  unfold find
  rw [Segment.ofChars_page_append_newline]
  rw [Segment.isEmpty_located, Segment.isEmpty_located, Segment.isEmpty_located,
    Segment.markers_append, Segment.markers_plain]
  cases Segment.markers (Segment.ofChars text.toList) <;> rfl

/-! ### Sessions -/

namespace Session

section

variable (s : Session) (clock : Nat → Instant) (strict : Bool)

/-- Once the present was taken, there is nothing to tell about it and the session stays as it is. -/
theorem takePresent_takePresent :
    (s.takePresent clock).2.1.takePresent clock =
      ((s.takePresent clock).1, (s.takePresent clock).2.1, []) := by
  rw [takePresent, present_takePresent]

theorem renderPage_of_isEmpty {page : String} (h : (Marker.find page).isEmpty = true) :
    s.renderPage clock page strict = (⟨.ok page, []⟩, s) := by
  unfold renderPage
  rw [if_pos h]

theorem renderPage_of_not_isEmpty {page : String} (h : (Marker.find page).isEmpty = false) :
    s.renderPage clock page strict =
      (⟨(s.settings.renderPage (s.takePresent clock).1 strict page).result,
        (s.takePresent clock).2.2 ++
          (s.settings.renderPage (s.takePresent clock).1 strict page).notices⟩,
        (s.takePresent clock).2.1) := by
  unfold renderPage
  rw [if_neg (by simp [h])]
  rfl

/-- A session that has taken its present renders a page by its settings. -/
theorem renderPage_takePresent (page : String) :
    (s.takePresent clock).2.1.renderPage clock page strict =
      (s.settings.renderPage (s.takePresent clock).1 strict page, (s.takePresent clock).2.1) := by
  cases h : (Marker.find page).isEmpty with
  | true => rw [renderPage_of_isEmpty _ _ _ h, Settings.renderPage_of_no_markers h]
  | false =>
      rw [renderPage_of_not_isEmpty _ _ _ h, takePresent_takePresent, settings_takePresent]
      rfl

end

section

variable {s s' s'' : Session} {clock : Nat → Instant} {strict : Bool} {text rest shown : String}
  {told : List Notice}

/-- What stands behind a newline is not reached if the text in front of it fails. -/
theorem renderPage_of_first_error {failure : Failure}
    (h : s.renderPage clock text strict = (⟨.error failure, told⟩, s')) :
    s.renderPage clock (text ++ "\n" ++ rest) strict = (⟨.error failure, told⟩, s') := by
  cases htext : (Marker.find text).isEmpty with
  | true =>
      rw [renderPage_of_isEmpty _ _ _ htext] at h
      cases h
  | false =>
      have hpage : (Marker.find (text ++ "\n" ++ rest)).isEmpty = false := by
        rw [Marker.isEmpty_find_append_newline, htext, Bool.false_and]
      rw [renderPage_of_not_isEmpty _ _ _ htext, Prod.mk.injEq, Outcome.mk.injEq] at h
      obtain ⟨⟨hresult, rfl⟩, rfl⟩ := h
      rw [renderPage_of_not_isEmpty _ _ _ hpage, Settings.renderPage_append_newline,
        Outcome.andThen_of_error hresult]

/-- What stands behind a newline is rendered in the session that the text in front of it leaves. -/
theorem renderPage_of_first_ok {second : Outcome String}
    (h : s.renderPage clock text strict = (⟨.ok shown, told⟩, s'))
    (h' : s'.renderPage clock rest strict = (second, s'')) :
    s.renderPage clock (text ++ "\n" ++ rest) strict =
      (⟨second.result.map (shown ++ "\n" ++ ·), told ++ second.notices⟩, s'') := by
  have hpage := Marker.isEmpty_find_append_newline text rest
  cases htext : (Marker.find text).isEmpty with
  | true =>
      -- The text is handed back, and the present is taken by the rest if at all.
      rw [renderPage_of_isEmpty _ _ _ htext] at h
      cases h
      rw [htext, Bool.true_and] at hpage
      cases hrest : (Marker.find rest).isEmpty with
      | true =>
          rw [hrest] at hpage
          rw [renderPage_of_isEmpty _ _ _ hrest] at h'
          cases h'
          rw [renderPage_of_isEmpty _ _ _ hpage]
          rfl
      | false =>
          rw [hrest] at hpage
          rw [renderPage_of_not_isEmpty _ _ _ hrest] at h'
          cases h'
          rw [renderPage_of_not_isEmpty _ _ _ hpage, Settings.renderPage_append_newline,
            Settings.renderPage_of_no_markers htext]
          rfl
  | false =>
      rw [htext, Bool.false_and] at hpage
      rw [renderPage_of_not_isEmpty _ _ _ htext, Prod.mk.injEq, Outcome.mk.injEq] at h
      obtain ⟨⟨hresult, rfl⟩, rfl⟩ := h
      rw [renderPage_takePresent] at h'
      cases h'
      rw [renderPage_of_not_isEmpty _ _ _ hpage, Settings.renderPage_append_newline,
        Outcome.andThen_of_ok hresult, List.append_assoc]

end

/-- **Pages are rendered line by line.** Cut a page at a newline. If what stands in front of it
fails, so does the page, and the rest is not reached. Otherwise the rest is rendered in the session
that is left: a failure of the rest is one of the page, the two texts are joined by a newline, and
all notices, the warnings among them, are those of the two in turn. The rest is answered as it would
be without the text in front. -/
theorem page_renders_line_by_line (s : Session) (clock : Nat → Instant) (strict : Bool)
    (text rest : String) :
    let first := s.renderPage clock text strict
    let second := first.2.renderPage clock rest strict
    let page := s.renderPage clock (text ++ "\n" ++ rest) strict
    (∀ failure, first.1.result = .error failure → page = first) ∧
    (∀ shown, first.1.result = .ok shown →
      page = (⟨second.1.result.map (shown ++ "\n" ++ ·), first.1.notices ++ second.1.notices⟩,
          second.2) ∧
        page.1.warnings = first.1.warnings ++ second.1.warnings) ∧
    second.1.answer = (s.renderPage clock rest strict).1.answer := by
  intro first second page
  refine ⟨fun failure hfailure => ?_, fun shown hshown => ?_, ?_⟩
  · have hfirst : first = (⟨.error failure, first.1.notices⟩, first.2) := by rw [← hfailure]
    exact (renderPage_of_first_error hfirst).trans hfirst.symm
  · have hfirst : first = (⟨.ok shown, first.1.notices⟩, first.2) := by rw [← hshown]
    have hpage : page = (⟨second.1.result.map (shown ++ "\n" ++ ·),
        first.1.notices ++ second.1.notices⟩, second.2) := renderPage_of_first_ok hfirst rfl
    exact ⟨hpage, by rw [hpage, Outcome.warnings, List.filter_append]; rfl⟩
  · have hsettings : first.2.settings = s.settings := s.settings_step clock (.page text strict)
    have hpresent : (first.2.takePresent clock).1 = (s.takePresent clock).1 :=
      s.takePresent_step clock (.page text strict)
    rw [answer_renderPage, answer_renderPage, hsettings, hpresent]

end Session
end WikiDates
