import WikiDates.Marker
import WikiDates.Settings

/-!
# Notices

What a rendering does on its way is told in notices, each of a level and from one part of the
program. A faulty marker is a warning and the failure of the command line an error; the steps of a
rendering that goes well are of interest for debugging only.
-/

namespace WikiDates

/-- How grave a notice is. -/
inductive Level where
  | debug
  | warning
  | error
  deriving DecidableEq, Repr

/-- The name of a level. -/
def Level.name : Level → String
  | debug => "DEBUG"
  | warning => "WARNING"
  | error => "ERROR"

/-- Something worth telling. -/
inductive Notice where
  /-- Options were read from tokens. -/
  | optionsRead (tokens : List String) (options : Options)
  /-- All units of an override were set. -/
  | overridden (x : Instant)
  /-- All amounts of an offset were added. -/
  | offset (x : Instant)
  /-- An instant is about to be written. -/
  | writing (x : Instant) (reference pattern : Value)
  /-- An instant was written. -/
  | written (x : Instant) (pattern : Value) (text : String)
  /-- A session took its present. -/
  | presentTaken (present : Value)
  /-- A marker is faulty. -/
  | faultyMarker (marker : Marker) (failure : Failure)
  /-- The command line ends with a failure. -/
  | commandFailed (failure : Failure)
  deriving Repr

namespace Notice

/-- The level of a notice. -/
def level : Notice → Level
  | faultyMarker .. => .warning
  | commandFailed _ => .error
  | _ => .debug

/-- The part of the program that a notice comes from. -/
def source : Notice → String
  | optionsRead .. => "datewidget.options"
  | overridden _ | offset _ => "datewidget.expression"
  | writing .. => "datewidget.renderer"
  | written .. => "datewidget.formatting"
  | presentTaken _ | faultyMarker .. => "datewidget.widgets"
  | commandFailed _ => "root"

/-! ### Display forms of options -/

/-- Texts in parentheses as a sequence, in which a single one is followed by a comma. -/
def sequence : List String → String
  | [text] => "(" ++ text ++ ",)"
  | texts => "(" ++ ", ".intercalate texts ++ ")"

/-- The display form of an amount. -/
def assignmentText (a : Assignment) : String :=
  "FieldAssignment(unit=<CalendarUnit." ++ a.unit.name ++ ": '" ++ a.unit.name ++
    "'>, magnitude=" ++ toString a.magnitude ++ ")"

/-- The display form of an expression. -/
def expressionText (e : Expression) : String := sequence (e.map assignmentText)

/-- The display form of an offset. -/
def offsetText (o : Offset) : String :=
  "OffsetExpression(sign=" ++ toString o.sign ++ ", assignments=" ++
    expressionText o.assignments ++ ")"

/-- The display form of options. -/
def optionsText (o : Options) : String :=
  "OptionSet(show_time=" ++ (Value.bool o.showTime).display ++
    ", explicit_format=" ++ (o.format.elim Value.null .text).display ++
    ", offset=" ++ o.offset.elim "None" offsetText ++
    ", override=" ++ o.override.elim "None" expressionText ++ ")"

/-! ### Messages -/

/-- The wording of a notice. -/
def message : Notice → String
  | optionsRead tokens options =>
    "Options built from " ++ (Value.list (tokens.map .text)).display ++ ": " ++ optionsText options
  | overridden x => "Override applied, result " ++ x.toText " "
  | offset x => "Offset applied, result " ++ x.toText " "
  | writing x reference pattern =>
    "Rendering " ++ x.toText " " ++ " (reference " ++ reference.plain ++ ") with " ++
      pattern.display
  | written x pattern text =>
    "Formatted " ++ x.toText " " ++ " with " ++ pattern.display ++ ": " ++ Text.quoted text
  | presentTaken present => "Render session reference set to " ++ present.plain
  | faultyMarker marker failure =>
    "Cannot render date widget " ++ Text.quoted marker.toText ++ ": " ++ failure.message
  | commandFailed failure => "datewidget: " ++ failure.message

/-- A notice with its level and its source in front. -/
def toText (n : Notice) : String := n.level.name ++ ":" ++ n.source ++ ":" ++ n.message

end Notice
end WikiDates
