import WikiDates.CommandLine.Report
import WikiDates.Proofs.CommandLine.Requests
import WikiDates.Proofs.Dictionary
import WikiDates.Proofs.RenderingReport

/-!
# What a command line reports

    texts ──Asks──▶ requests ──Follows──▶ command ──Gives──▶ dictionary
                                                                 │ IsOutcome
                                           report ◀──Tells── result of the library

A command gives its session a dictionary, and asks it for a page or for a marker. What comes of that
is told by the library alone: `CommandLine.Command.IsOutcome` has one rule for each of the ways, and
none of them speaks of the command line. `CommandLine.Tells` says which report stands for which
outcome: all of the text and success, a single error and nothing else, or no report at all.

`CommandLine.run_tells_outcome` says that the report of a command line tells the outcome of the command
that follows its requests. The rest of it is about pages, `CommandLine.code_of_page`. Sound settings and
a page that can be read leave a rendering as the only thing that fails, so what is reported then is the
fault of a marker.
-/

namespace WikiDates

open Results

/-! ### Line ends -/

namespace Text

theorem getLast?_toList_iff {s : String} :
    s.toList.getLast? = some '\n' ↔ ∃ t, s = t ++ "\n" := by
  rw [List.getLast?_eq_some_iff]
  constructor
  · rintro ⟨cs, hcs⟩
    refine ⟨String.ofList cs, ?_⟩
    rw [← String.toList_inj, hcs, String.toList_append, String.toList_ofList]
    rfl
  · rintro ⟨t, rfl⟩
    exact ⟨t.toList, String.toList_append⟩

theorem withLineEnd_of_end {s : String} (h : ∃ t, s = t ++ "\n") : withLineEnd s = s :=
  if_pos (getLast?_toList_iff.mpr h)

theorem withLineEnd_of_no_end {s : String} (h : ¬ ∃ t, s = t ++ "\n") :
    withLineEnd s = s ++ "\n" :=
  if_neg fun hlast => h (getLast?_toList_iff.mp hlast)

end Text

namespace CommandLine

/-! ### What the library makes of a command -/

namespace Command

/-- The dictionary is the one that a command gives to its session. It holds the base, if there is
one, and the locale, if there is one that is not empty. -/
structure Gives (c : Command) (d : SettingEntries) : Prop where
  distinct : d.names.Nodup
  only : ∀ entry ∈ d, entry.1 = "RELATIVE_BASE" ∨ entry.1 = "LOCALE"
  base : ∀ v, ("RELATIVE_BASE", v) ∈ d ↔ ∃ x, c.base = some x ∧ v = .instant x
  locale : ∀ v, ("LOCALE", v) ∈ d ↔ ∃ l, c.locale = some l ∧ l ≠ "" ∧ v = .text l

/-- The result that the library has for a command, in a session with a dictionary. -/
inductive IsOutcome (c : Command) (w : Surroundings) (d : SettingEntries) :
    Except Failure String → Prop
  /-- The session is refused. -/
  | refused {failure} : Session.start (.dict d) = .error failure → IsOutcome c w d (.error failure)
  /-- The page cannot be read. -/
  | unread {s path failure} : Session.start (.dict d) = .ok s → c.pagePath = some path →
      readPage w path = .error failure → IsOutcome c w d (.error failure)
  /-- The page is rendered. -/
  | page {s path page} : Session.start (.dict d) = .ok s → c.pagePath = some path →
      readPage w path = .ok page → IsOutcome c w d (s.renderPage w.clock page c.strict).1.result
  /-- The marker is rendered. -/
  | marker {s a} : Session.start (.dict d) = .ok s → c.pagePath = none → c.anchor = some a →
      IsOutcome c w d (s.render w.clock a.name c.text).1.result
  /-- There is no name for a marker. -/
  | nameless {s} : Session.start (.dict d) = .ok s → c.pagePath = none → c.anchor = none →
      IsOutcome c w d (.error .noName)

variable {c : Command} {w : Surroundings} {d : SettingEntries} {r : Except Failure String}

theorem exists_gives (c : Command) : ∃ d, c.settings = .dict d ∧ c.Gives d := by
  refine ⟨_, rfl, ?_, ?_, ?_, ?_⟩
  · unfold SettingEntries.names
    cases c.base with
    | none => cases c.locale.filter (· ≠ "") <;> simp
    | some x => cases c.locale.filter (· ≠ "") <;> simp
  · intro entry hentry
    rcases List.mem_append.mp hentry with hentry | hentry
    · obtain ⟨x, -, rfl⟩ := Option.map_eq_some_iff.mp (Option.mem_toList.mp hentry)
      exact Or.inl rfl
    · obtain ⟨l, -, rfl⟩ := Option.map_eq_some_iff.mp (Option.mem_toList.mp hentry)
      exact Or.inr rfl
  · intro v
    simp [eq_comm]
  · intro v
    simp [Option.filter_eq_some_iff, and_assoc, eq_comm (a := v)]

theorem isOutcome_iff (h : c.settings = .dict d) :
    c.IsOutcome w d r ↔ (c.outcome w).result = r := by
  unfold outcome renderIn
  rw [h]
  constructor
  · intro hr
    cases hr with
    | refused hstart => rw [hstart]
    | unread hstart hpath hread => simp only [hstart, hpath, hread]
    | page hstart hpath hread => simp only [hstart, hpath, hread]
    | marker hstart hpath hanchor => simp only [hstart, hpath, hanchor]
    | nameless hstart hpath hanchor => simp only [hstart, hpath, hanchor]
  · rintro rfl
    cases hstart : Session.start (.dict d) with
    | error failure => exact .refused hstart
    | ok s =>
        cases hpath : c.pagePath with
        | some path =>
            cases hread : readPage w path with
            | error failure =>
                dsimp only
                rw [hread]
                exact .unread hstart hpath hread
            | ok page =>
                dsimp only
                rw [hread]
                exact .page hstart hpath hread
        | none =>
            cases hanchor : c.anchor with
            | some a => exact .marker hstart hpath hanchor
            | none => exact .nameless hstart hpath hanchor

theorem isCalm_outcome (c : Command) (w : Surroundings) : (c.outcome w).IsCalm := by
  unfold outcome renderIn
  split
  · split
    · split
      · exact Session.isCalm_renderPage _ w.clock _ c.strict
      · exact Outcome.isCalm_of_nil _
    · exact Session.isCalm_render _ w.clock _ c.text
    · exact Outcome.isCalm_of_nil _
  · exact Outcome.isCalm_of_nil _

end Command

/-! ### What a report tells -/

/-- The errors that a report tells, as they are worded. -/
def Report.errors (report : Report) : List String :=
  (report.notices.filter fun n => n.level = .error).map Notice.message

/-- What a run leaves behind tells a result. -/
inductive Tells : Except Failure String → Except Failure Report → Prop
  /-- A text is put out with a line end behind it. -/
  | text {text : String} {report : Report} : report.code = 0 →
      ((∃ t, text = t ++ "\n") → report.output = text) →
      ((¬ ∃ t, text = t ++ "\n") → report.output = text ++ "\n") → report.errors = [] →
      Tells (.ok text) (.ok report)
  /-- A fault is told in one error, and nothing is put out. -/
  | fault {failure : Failure} {report : Report} : failure.isReported = true → report.code = 1 →
      report.output = "" → report.errors = ["datewidget: " ++ failure.message] →
      Tells (.error failure) (.ok report)
  /-- Any other failure goes through, and there is no report. -/
  | other {failure : Failure} : failure.isReported = false → Tells (.error failure) (.error failure)

theorem filter_of_isCalm {o : Outcome String} (h : o.IsCalm) :
    (o.notices.filter fun n => n.level = .error) = [] := by
  rw [List.filter_eq_nil_iff]
  intro n hn
  simpa using h n hn

/-- The report of a command tells its outcome. -/
theorem Command.tells_run (c : Command) (w : Surroundings) :
    Tells (c.outcome w).result (c.run w) := by
  have hcalm := filter_of_isCalm (c.isCalm_outcome w)
  unfold run
  dsimp only
  cases hr : (c.outcome w).result with
  | ok text =>
      refine .text rfl Text.withLineEnd_of_end Text.withLineEnd_of_no_end ?_
      simp only [Report.errors, hcalm, List.map_nil]
  | error failure =>
      cases hreported : failure.isReported with
      | false =>
          simp only [hreported]
          exact .other hreported
      | true =>
          simp only [hreported, if_true]
          refine .fault hreported rfl rfl ?_
          show (List.filter _ (_ ++ [.commandFailed failure])).map Notice.message = _
          rw [List.filter_append, hcalm]
          rfl

/-! ### Pages -/

namespace Command

variable {c : Command} {w : Surroundings} {d : SettingEntries}

/-- The entries that a command gives are valid if its locale is. -/
theorem Gives.isValidEntry (h : c.Gives d)
    (hlocale : ∀ l, c.locale = some l → l ≠ "" → ∃ locale, Locale.parse l = .ok locale) :
    ∀ entry ∈ d, Settings.IsValidEntry entry := by
  rintro ⟨name, v⟩ hentry
  rcases h.only _ hentry with hname | hname
  · cases hname
    obtain ⟨x, -, rfl⟩ := (h.base v).mp hentry
    exact .base x
  · cases hname
    obtain ⟨l, hl, hne, rfl⟩ := (h.locale v).mp hentry
    obtain ⟨locale, hparse⟩ := hlocale l hl hne
    exact .locale hparse

theorem Gives.not_mem_names (h : c.Gives d) {name : String} (hbase : name ≠ "RELATIVE_BASE")
    (hlocale : name ≠ "LOCALE") : name ∉ d.names := by
  intro hname
  obtain ⟨entry, hentry, rfl⟩ := List.mem_map.mp hname
  rcases h.only entry hentry with hsame | hsame
  · exact hbase hsame
  · exact hlocale hsame

/-- With a valid locale, the session of a command starts. -/
theorem Gives.exists_start (h : c.Gives d)
    (hlocale : ∀ l, c.locale = some l → l ≠ "" → ∃ locale, Locale.parse l = .ok locale) :
    ∃ s, Session.start (.dict d) = .ok s := by
  unfold Session.start
  rw [exists_map_eq_ok_iff]
  by_cases hd : d = []
  · rw [hd]
    exact ⟨{}, rfl⟩
  · have harguments : d.AreArguments := ⟨hd, h.distinct, h.not_mem_names (by decide) (by decide),
      h.not_mem_names (by decide) (by decide)⟩
    have hkept : d.KeepsRecord := by
      refine ⟨?_, fun hdict => absurd hdict (h.not_mem_names (by decide) (by decide))⟩
      intro entry hentry
      apply Or.inl
      rcases h.only entry hentry with hname | hname
      · rw [hname]
        decide
      · rw [hname]
        decide
    exact (Settings.exists_ofArgument_iff harguments hkept).mpr (h.isValidEntry hlocale)

end Command

/-- A session that was started with a dictionary has an instant for its present. -/
theorem exists_present_of_start {d : SettingEntries} {s : Session}
    (h : Session.start (.dict d) = .ok s) (clock : Nat → Instant) :
    ∃ x, (s.takePresent clock).1 = .instant x := by
  obtain ⟨settings, hsettings, rfl⟩ := map_eq_ok_iff.mp h
  exact Session.exists_present ⟨d, hsettings⟩ rfl clock

/-- The code is 1 exactly if a fault is told. -/
theorem Tells.code_eq_one_iff {r : Except Failure String} {result : Except Failure Report}
    (h : Tells r result) :
    (∃ report, result = .ok report ∧ report.code = 1) ↔
      ∃ failure, r = .error failure ∧ failure.isReported = true := by
  cases h with
  | text hcode => simp [hcode]
  | fault hreported hcode => simp [hreported, hcode]
  | other hreported => simp [hreported]

theorem run_of_read {arguments : List String} {c : Command} {w : Surroundings}
    (h : Command.read w.edition arguments = .ok c) : run arguments w = c.run w := by
  unfold run
  rw [h]

/-- With a valid locale and a page that can be read, the rendering of the page is all that can fail. So
a lenient rendering never ends with the code 1, and a strict one does exactly if the first marker that
fails is at fault itself. -/
theorem code_of_page {c : Command} {w : Surroundings} {d : SettingEntries} {path page : String}
    {result : Except Failure Report} (hgives : c.Gives d)
    (htells : ∀ r, c.IsOutcome w d r → Tells r result) (hpath : c.pagePath = some path)
    (hpage : Command.readPage w path = .ok page)
    (hlocale : ∀ l, c.locale = some l → l ≠ "" → ∃ locale, Locale.parse l = .ok locale) :
    ∃ s, Session.start (.dict d) = .ok s ∧
      (c.strict = false → ∀ report, result = .ok report → report.code ≠ 1) ∧
      (c.strict = true → ((∃ report, result = .ok report ∧ report.code = 1) ↔
        ∃ failure, Marker.FailsFirst (s.answer w.clock)
          (Segment.markers (Segment.ofChars page.toList)) failure ∧
            failure.isMarkerFault = true)) := by
  obtain ⟨s, hs⟩ := hgives.exists_start hlocale
  obtain ⟨x, hx⟩ := exists_present_of_start hs w.clock
  -- The session starts and the page is read, so only the rendering can fail.
  have hcode := (htells _ (.page hs hpath hpage)).code_eq_one_iff
  have hkind : ∀ {strict failure}, (s.renderPage w.clock page strict).1.result = .error failure →
      failure.isReported = failure.isMarkerFault := fun hfail =>
    Failure.isReported_of_isOfRendering (Session.failsOnly_renderPage_ofRendering hx _ _ hfail)
  refine ⟨s, hs, ?_, ?_⟩
  · intro hlenient report hreport hone
    rw [hlenient] at hcode
    obtain ⟨failure, hfail, hreported⟩ := hcode.mp ⟨report, hreport, hone⟩
    rw [hkind hfail, Session.isMarkerFault_of_lenient hfail] at hreported
    cases hreported
  · intro hstrict
    rw [hstrict] at hcode
    rw [hcode]
    constructor
    · rintro ⟨failure, hfail, hreported⟩
      exact ⟨failure, Session.strict_eq_error_iff.mp hfail, hkind hfail ▸ hreported⟩
    · rintro ⟨failure, hfirst, hfault⟩
      have hfail := Session.strict_eq_error_iff.mpr hfirst
      exact ⟨failure, hfail, (hkind hfail).trans hfault⟩

end CommandLine
end WikiDates
