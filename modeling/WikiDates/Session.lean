import WikiDates.Naming
import WikiDates.Rendering

/-!
# Sessions

A session renders any number of markers and pages against one present. The present is the base of
its settings; if that is void, it is the reading of a clock, taken when a step first needs it and
kept from then on. A step that is rejected for an unknown name, or that renders a page without
markers, does not need it.

The clock is the sequence of its readings, `clock 0`, `clock 1` and so on, and a session counts how
many of them it has taken.
-/

namespace WikiDates

/-- A session. -/
structure Session where
  /-- The settings of all its renderings. -/
  settings : Settings
  /-- The present, once it was needed. -/
  present : Option Value := none
  /-- How many readings of the clock were taken. -/
  readings : Nat := 0
  deriving Repr

namespace Session

/-- A session with the settings that an argument stands for. -/
def start (argument : Value) : Except Failure Session :=
  (Settings.ofArgument argument).map fun settings => { settings }

/-- The present of a session, the session that keeps it, and what there is to tell. -/
def takePresent (s : Session) (clock : Nat → Instant) : Value × Session × List Notice :=
  match s.present with
  | some present => (present, s, [])
  | none =>
    if s.settings.base.isVoid then
      let present := Value.instant (clock s.readings)
      (present, { s with present := some present, readings := s.readings + 1 },
        [.presentTaken present])
    else
      (s.settings.base, { s with present := some s.settings.base },
        [.presentTaken s.settings.base])

/-- Do something with the present of a session. -/
def withPresent (s : Session) (clock : Nat → Instant) {α : Type} (f : Value → Outcome α) :
    Outcome α × Session :=
  let (present, s, told) := s.takePresent clock
  let o := f present
  (⟨o.result, told ++ o.notices⟩, s)

/-- Do something with the anchor of a name. -/
def withAnchor (s : Session) (name : String) {α : Type} (f : Anchor → Outcome α × Session) :
    Outcome α × Session :=
  match Anchor.named name with
  | .ok a => f a
  | .error failure => (⟨.error failure, []⟩, s)

/-- The present. -/
def now (s : Session) (clock : Nat → Instant) : Outcome Value × Session :=
  s.withPresent clock fun present => ⟨.ok present, []⟩

/-- The reference of the marker of a name. -/
def reference (s : Session) (clock : Nat → Instant) (name : String) : Outcome Value × Session :=
  s.withAnchor name fun a => s.withPresent clock fun present => ⟨a.reference present, []⟩

/-- Render an option text against the reference of the marker of a name. -/
def render (s : Session) (clock : Nat → Instant) (name : String) (text : Option String) :
    Outcome String × Session :=
  s.withAnchor name fun a => s.withPresent clock fun present =>
    ⟨a.render s.settings present text, a.renderNotices s.settings present text⟩

/-- Render a page. -/
def renderPage (s : Session) (clock : Nat → Instant) (page : String) (strict : Bool) :
    Outcome String × Session :=
  if (Marker.find page).isEmpty then (⟨.ok page, []⟩, s)
  else s.withPresent clock fun present => s.settings.renderPage present strict page

/-! ### Runs -/

/-- A step of a session. -/
inductive Step where
  /-- Ask for the present. -/
  | now
  /-- Ask for the reference of the marker of a name. -/
  | reference (name : String)
  /-- Render an option text for the marker of a name. -/
  | render (name : String) (text : Option String)
  /-- Render a page. -/
  | page (text : String) (strict : Bool)
  deriving DecidableEq, Repr

/-- Take a step. -/
def step (s : Session) (clock : Nat → Instant) : Step → Outcome Value × Session
  | .now => s.now clock
  | .reference name => s.reference clock name
  | .render name text =>
    let (o, s) := s.render clock name text
    (⟨o.result.map .text, o.notices⟩, s)
  | .page text strict =>
    let (o, s) := s.renderPage clock text strict
    (⟨o.result.map .text, o.notices⟩, s)

/-- Take steps one after another, whether they fail or not. -/
def run (s : Session) (clock : Nat → Instant) : List Step → List (Outcome Value) × Session
  | [] => ([], s)
  | next :: steps =>
    let (o, s) := s.step clock next
    let (os, s) := s.run clock steps
    (o :: os, s)

end Session

/-- Render a page in a session of its own. -/
def renderPage (argument : Value) (clock : Nat → Instant) (page : String) (strict : Bool) :
    Outcome String :=
  match Session.start argument with
  | .error failure => ⟨.error failure, []⟩
  | .ok s => (s.renderPage clock page strict).1

end WikiDates
