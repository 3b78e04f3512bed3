import WikiDates.Notice
import WikiDates.Reference

/-!
# Rendering markers and pages

    reference, option text ──▶ instant ──▶ text

An option text is rendered against a reference: the options are read, the reference is adjusted by
them, and the result is written in the format that they select. A marker is rendered against the
reference of its anchor, some days from the present. A page is rendered by putting the text of every
marker in its place and leaving the rest as it is.

A *strict* rendering of a page fails with the first marker that fails. A *lenient* one shows the
fault of a marker in its place and gives a warning; only other failures end it.

`notices` says of each of these what it has to tell on its way, up to the point where it ends.
-/

namespace WikiDates

/-- A result, with what there was to tell on the way. -/
structure Outcome (α : Type) where
  /-- The result. -/
  result : Except Failure α
  /-- The notices, in order. -/
  notices : List Notice

namespace Settings

/-- Adjust a reference by options and write the result. -/
def render (s : Settings) (reference : Value) (o : Options) : Except Failure String :=
  match reference with
  | .instant x => o.apply x >>= s.format o
  | other => .error (.notInstant other.kind)

/-- Render an option text against a reference. -/
def renderText (s : Settings) (reference : Value) (text : Option String) :
    Except Failure String := do
  let o ← Options.parse text
  s.render reference o

end Settings

/-! ### Notices of a rendering -/

/-- What reading an option text has to tell. A marker without an option text has nothing to read. -/
def Options.parseNotices (text : Option String) : List Notice :=
  match text, Options.parse text with
  | some _, .ok o => [.optionsRead (tokenize text) o]
  | _, _ => []

/-- What adjusting an instant by options has to tell. -/
def Options.applyNotices (o : Options) (x : Instant) : List Notice :=
  let overridden := { o with offset := none }.apply x
  (match o.override, overridden with
    | some _, .ok y => [Notice.overridden y]
    | _, _ => []) ++
  match o.offset, o.apply x with
  | some _, .ok z => [Notice.offset z]
  | _, _ => []

/-- What adjusting and writing a reference has to tell. -/
def Settings.renderNotices (s : Settings) (reference : Value) (o : Options) : List Notice :=
  match reference with
  | .instant x =>
    o.applyNotices x ++
      match o.apply x with
      | .ok y =>
        .writing y reference (s.formatFor o) ::
          match s.format o y with
          | .ok text => [.written y (s.formatFor o) text]
          | .error _ => []
      | .error _ => []
  | _ => []

/-- What rendering an option text has to tell. -/
def Settings.renderTextNotices (s : Settings) (reference : Value) (text : Option String) :
    List Notice :=
  Options.parseNotices text ++
    match Options.parse text with
    | .ok o => s.renderNotices reference o
    | .error _ => []

/-- Render an option text against a reference, with the settings that an argument stands for. -/
def render (argument reference : Value) (text : Option String) : Outcome String :=
  match Settings.ofArgument argument with
  | .ok s => ⟨s.renderText reference text, s.renderTextNotices reference text⟩
  | .error failure => ⟨.error failure, []⟩

/-! ### Markers -/

/-- The reference of a marker, from the present. -/
def Anchor.reference (a : Anchor) (present : Value) : Except Failure Value :=
  present.daysAway a.days

/-- Render an option text against the reference of an anchor. -/
def Anchor.render (a : Anchor) (s : Settings) (present : Value) (text : Option String) :
    Except Failure String := do
  let reference ← a.reference present
  s.renderText reference text

/-- What that rendering has to tell. -/
def Anchor.renderNotices (a : Anchor) (s : Settings) (present : Value) (text : Option String) :
    List Notice :=
  match a.reference present with
  | .ok reference => s.renderTextNotices reference text
  | .error _ => []

namespace Marker

/-- The option text of a marker. -/
def optionText (m : Marker) : Option String := m.options.map String.ofList

/-- Render a marker. -/
def render (m : Marker) (s : Settings) (present : Value) : Except Failure String :=
  m.anchor.render s present m.optionText

/-- What is shown in place of a faulty marker. -/
def faultText (m : Marker) (failure : Failure) : String :=
  "[" ++ m.toText ++ ": " ++ failure.message ++ "]"

/-- Render a marker in a page. -/
def outcome (m : Marker) (s : Settings) (present : Value) (strict : Bool) : Outcome String :=
  let told := m.anchor.renderNotices s present m.optionText
  match m.render s present with
  | .ok text => ⟨.ok text, told⟩
  | .error failure =>
    if failure.isMarkerFault && !strict then
      ⟨.ok (m.faultText failure), told ++ [.faultyMarker m failure]⟩
    else ⟨.error failure, told⟩

end Marker

/-! ### Pages -/

/-- Render the parts of a page, from the left. -/
def Segment.renderAll (s : Settings) (present : Value) (strict : Bool) :
    List Segment → Outcome (List Char)
  | [] => ⟨.ok [], []⟩
  | .plain c :: rest =>
    let after := renderAll s present strict rest
    ⟨after.result.map (c :: ·), after.notices⟩
  | .marker m :: rest =>
    match m.outcome s present strict with
    | ⟨.error failure, told⟩ => ⟨.error failure, told⟩
    | ⟨.ok text, told⟩ =>
      let after := renderAll s present strict rest
      ⟨after.result.map (text.toList ++ ·), told ++ after.notices⟩

/-- Render a page. -/
def Settings.renderPage (s : Settings) (present : Value) (strict : Bool) (page : String) :
    Outcome String :=
  let parts := Segment.renderAll s present strict (Segment.ofChars page.toList)
  ⟨parts.result.map String.ofList, parts.notices⟩

end WikiDates
