import WikiDates.Proofs.Memoryless
import WikiDates.Proofs.Override

/-!
# The days beside now

    present ──a day more──▶ reference ──options──▶ instant
    present ──────a day more, then the options─────▶ instant

The reference of tomorrow is a day more than the present. Options that set no unit can do that step
themselves: a day in front of what they add, with the sign that they have. Both ways make the same
shifts from the same instants, so they also fail in the same place.

`Session.beside_now_is_day_added` says this of the two anchors beside the present.
-/

namespace WikiDates

open Results

/-! ### A day in front of an offset -/

theorem Assignment.offsetShift_day_one (sign : Int) :
    (⟨.day, 1⟩ : Assignment).offsetShift sign = { days := sign } := by
  simp [offsetShift]

theorem Instant.offset_cons (x : Instant) (a : Assignment) (e : Expression) (sign : Int) :
    x.offset (a :: e) sign = x.shift (a.offsetShift sign) >>= fun y => y.offset e sign :=
  List.foldlM_cons

namespace Options

/-- Options that add a day `sign` times before what they add themselves. -/
def dayFirst (o : Options) (sign : Int) : Options :=
  { o with offset := some ⟨sign, ⟨.day, 1⟩ :: o.offset.elim [] Offset.assignments⟩ }

/-- Options that set no unit are applied a day further on. -/
theorem apply_dayFirst {o : Options} {sign : Int} (hoverride : o.override = none)
    (hsign : ∀ offset ∈ o.offset, offset.sign = sign) (x : Instant) :
    (o.dayFirst sign).apply x = x.shift { days := sign } >>= o.apply := by
  have hfirst : (o.dayFirst sign).apply x =
      x.offset (⟨.day, 1⟩ :: o.offset.elim [] Offset.assignments) sign := by
    unfold apply dayFirst
    rw [hoverride]
    dsimp only
    rw [pure_bind]
  have hrest : o.apply = fun y => y.offset (o.offset.elim [] Offset.assignments) sign := by
    funext y
    unfold apply
    rw [hoverride]
    dsimp only
    rw [pure_bind]
    cases hoffset : o.offset with
    | none => rfl
    | some offset => rw [← hsign offset hoffset, Option.elim_some]
  rw [hfirst, Instant.offset_cons, Assignment.offsetShift_day_one, hrest]

end Options

/-! ### Rendering against a day beside the present -/

theorem Anchor.reference_beside {a : Anchor} (h : a.days ≠ 0) (x : Instant) :
    a.reference (.instant x) = (x.shift { days := a.days }).map .instant := by
  unfold reference Value.daysAway
  rw [if_neg h, Value.shift_instant]

/-- Rendering against the reference of an anchor beside the present is rendering against the present
with a day in front of the offset. -/
theorem Settings.render_dayFirst (s : Settings) {o : Options} {a : Anchor} (ha : a.days ≠ 0)
    (hoverride : o.override = none) (hsign : ∀ offset ∈ o.offset, offset.sign = a.days)
    (x : Instant) :
    (a.reference (.instant x) >>= fun reference => s.render reference o) =
      s.render (.instant x) (o.dayFirst a.days) := by
  have hrender : s.render (.instant x) (o.dayFirst a.days) =
      (o.dayFirst a.days).apply x >>= s.format o := rfl
  rw [hrender, Options.apply_dayFirst hoverride hsign, Anchor.reference_beside ha]
  cases x.shift { days := a.days } with
  | error failure => rfl
  | ok y => rfl

/-! ### Sessions -/

namespace Session

/-- Options, rendered against the reference of the marker of a name. -/
def renderOptions (s : Session) (clock : Nat → Instant) (name : String) (o : Options) :
    Except Failure String :=
  (s.reference clock name).1.result >>= fun reference => s.settings.render reference o

theorem renderOptions_name (s : Session) (clock : Nat → Instant) (a : Anchor) (o : Options) :
    s.renderOptions clock a.name o =
      a.reference (s.takePresent clock).1 >>= fun reference => s.settings.render reference o := by
  have hanswer := congrArg Prod.fst (answer_reference s clock a.name)
  dsimp only [Outcome.answer] at hanswer
  unfold renderOptions
  rw [hanswer, Anchor.named_name]
  rfl

/-- A session renders an option text as the options that it is read as. -/
theorem render_of_parse {text : Option String} {o : Options} (h : Options.parse text = .ok o)
    (s : Session) (clock : Nat → Instant) (name : String) :
    (s.render clock name text).1.result = s.renderOptions clock name o := by
  have hanswer := congrArg Prod.fst (answer_render s clock name text)
  have hreference := congrArg Prod.fst (answer_reference s clock name)
  dsimp only [Outcome.answer] at hanswer hreference
  have htext : ∀ reference,
      s.settings.renderText reference text = s.settings.render reference o := by
    intro reference
    unfold Settings.renderText
    rw [h]
    rfl
  unfold renderOptions
  rw [hanswer, hreference]
  cases Anchor.named name with
  | error failure => rfl
  | ok a =>
      show (a.reference _ >>= fun reference => s.settings.renderText reference text) = _
      simp only [htext]
      rfl

/-- Options are rendered against a day beside now as against now with that day in front. -/
theorem renderOptions_beside {s : Session} {clock : Nat → Instant} {x : Instant} {a : Anchor}
    {o : Options} (ha : a.days ≠ 0) (hx : (s.takePresent clock).1 = .instant x)
    (hoverride : o.override = none) (hsign : ∀ offset ∈ o.offset, offset.sign = a.days) :
    s.renderOptions clock a.name o = s.renderOptions clock "now" (o.dayFirst a.days) := by
  have hnow : s.renderOptions clock "now" (o.dayFirst a.days) =
      s.settings.render (.instant x) (o.dayFirst a.days) := by
    rw [← hx]
    exact renderOptions_name s clock .now _
  rw [hnow, renderOptions_name, hx]
  exact s.settings.render_dayFirst ha hoverride hsign x

/-- **Tomorrow is a day added to now, and yesterday a day taken from it.** Options that set no unit
are rendered against the reference of tomorrow as against now with a day in front of what they add,
to the same text or with the same failure; likewise for yesterday and options that take away. A
session renders every text that is read as options in this way. -/
theorem beside_now_is_day_added (s : Session) (clock : Nat → Instant) (x : Instant) (o : Options)
    (hx : (s.takePresent clock).1 = .instant x) (hoverride : o.override = none) :
    ((∀ offset ∈ o.offset, offset.sign = 1) →
      s.renderOptions clock "tomorrow" o = s.renderOptions clock "now" (o.dayFirst 1)) ∧
    ((∀ offset ∈ o.offset, offset.sign = -1) →
      s.renderOptions clock "yesterday" o = s.renderOptions clock "now" (o.dayFirst (-1))) ∧
    ∀ name text o', Options.parse text = .ok o' →
      (s.render clock name text).1.result = s.renderOptions clock name o' := by
  refine ⟨fun hsign => ?_, fun hsign => ?_, fun name text o' h => render_of_parse h s clock name⟩
  · exact renderOptions_beside (a := .tomorrow) (by decide) hx hoverride hsign
  · exact renderOptions_beside (a := .yesterday) (by decide) hx hoverride hsign

/-- On the last day there is no tomorrow, and no day can be added: the failure is the same. -/
theorem no_day_added_to_last_day :
    let s := withBase {} (some Instant.last)
    let clock : Nat → Instant := fun _ => Instant.first
    let o : Options := { offset := some ⟨1, [⟨.hour, 2⟩]⟩ }
    (s.takePresent clock).1 = .instant Instant.last ∧ o.override = none ∧
      (∀ offset ∈ o.offset, offset.sign = 1) ∧
      s.renderOptions clock "tomorrow" o =
        .error (.outOfRange { days := 1 } Instant.last .date) ∧
      s.renderOptions clock "tomorrow" o = s.renderOptions clock "now" (o.dayFirst 1) := by
  intro s clock o
  have hsign : ∀ offset ∈ o.offset, offset.sign = 1 := by
    intro offset hoffset
    cases hoffset
    rfl
  refine ⟨rfl, rfl, hsign, ?_, (beside_now_is_day_added s clock Instant.last o rfl rfl).1 hsign⟩
  decide +kernel

end Session
end WikiDates
