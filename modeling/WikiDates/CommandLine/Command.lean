import WikiDates.Calendar.Iso8601
import WikiDates.CommandLine.Argument
import WikiDates.Session

/-!
# Commands

    arguments ──classifyAll──▶ classified arguments ──Command.read──▶ Command

A command renders a single marker or a whole page. Its options may come in any order, and of several
options of one kind the last is used. The first plain text is the option text of the marker; any
other text has no use. Reading stops at the first fault, at a demand for help, and at a date that
leads out of the calendar.

There are two rules for what is attached to an option (`Edition`). They differ for a value that looks
like the separator, and for characters behind a short spelling that are no options.
-/

namespace WikiDates.CommandLine

/-- The rules for what is attached to an option. -/
inductive Edition where
  /-- A value that looks like the separator is left out. An equals sign may stand behind a short
  spelling; what is no option behind it is at fault. -/
  | earlier
  /-- A value is taken as it is. Letters behind a short spelling that are no options have no use; an
  equals sign or a dash there is at fault. -/
  | later
  deriving DecidableEq, Repr

/-- What a command line asks for. -/
structure Command where
  /-- The anchor of the marker. It is missing if its option was given an empty list of values. -/
  anchor : Option Anchor := some .now
  /-- The option text of the marker. -/
  text : Option String := none
  /-- The path of the page to render instead of a marker, where `-` is the standard input. -/
  page : Option String := none
  /-- The present, if it is not to be taken from the clock. -/
  base : Option Instant := none
  /-- The locale. -/
  locale : Option String := none
  /-- Whether a page is rendered strictly. -/
  strict : Bool := false
  /-- Whether all notices are shown. -/
  verbose : Bool := false
  deriving DecidableEq, Repr

/-- Why a command line leads to no command. -/
inductive Refusal where
  /-- Help is asked for. -/
  | help
  /-- The command line is at fault. -/
  | usage (fault : UsageFault)
  /-- The present lies outside the calendar. -/
  | failure (failure : Failure)
  deriving DecidableEq, Repr

namespace Command

/-- Read the present. -/
def readBase (value : String) : Except Refusal Instant :=
  (Iso8601.parse value).mapError fun
    | .invalid => .usage (.invalidBase value)
    | .outside => .failure .dateOutside

/-- Read the name of an anchor. -/
def readAnchor (value : String) : Except Refusal Anchor :=
  match Anchor.ofName? value with
  | some a => .ok a
  | none => .error (.usage (.invalidAnchor value))

/-- Give a value to an option that takes one. -/
def setValue (c : Command) (switch : Switch) (value : String) : Except Refusal Command :=
  match switch with
  | .anchor => (readAnchor value).map fun a => { c with anchor := some a }
  | .page => .ok { c with page := some value }
  | .base => (readBase value).map fun x => { c with base := some x }
  | .locale => .ok { c with locale := some value }
  | .help | .strict | .verbose => .error (.usage (.valueIgnored switch value))

/-- Give no value to an option: it stands alone, or its list of values is empty. The page is the
standard input then. -/
def setEmpty (c : Command) (switch : Switch) : Except Refusal Command :=
  match switch with
  | .help => .error .help
  | .strict => .ok { c with strict := true }
  | .verbose => .ok { c with verbose := true }
  | .page => .ok { c with page := some "-" }
  | .anchor => .ok { c with anchor := none }
  | .base => .ok { c with base := none }
  | .locale => .ok { c with locale := none }

/-- Give an attached value to an option. -/
def setAttached (edition : Edition) (c : Command) (switch : Switch) (value : String) :
    Except Refusal Command :=
  if edition = .earlier ∧ switch.arity ≠ .none ∧ value = "--" then c.setEmpty switch
  else c.setValue switch value

/-- Why a character cannot stand behind an option in a row, if it is at fault. -/
def rowFault? (edition : Edition) (switch : Switch) (c : Char) (cs : List Char) :
    Option UsageFault :=
  match edition with
  | .earlier => some (.valueIgnored switch (String.ofList (c :: cs)))
  | .later =>
    if c = '=' then some (.valueIgnored switch (String.ofList cs))
    else if c = '-' then some (.valueIgnored switch (String.ofList (c :: cs)))
    else none

/-- The options in a row of which the letters follow each other, and the characters behind them that
have no use. -/
def readRow (edition : Edition) (switch : Switch) :
    List Char → Except Refusal (List Switch × List Char)
  | [] => .ok ([switch], [])
  | c :: cs =>
    match Switch.ofLetter? c with
    | some next =>
      (readRow edition next cs).map fun (switches, unused) => (switch :: switches, unused)
    | none =>
      match rowFault? edition switch c cs with
      | some fault => .error (.usage fault)
      | none => .ok ([switch], c :: cs)

/-- The options in a row that starts with a short spelling. -/
def readShort (edition : Edition) (switch : Switch) (attached : List Char) :
    Except Refusal (List Switch × List Char) :=
  match edition, attached with
  | .earlier, ['='] => .error (.usage (.valueIgnored switch ""))
  | .earlier, '=' :: cs => readRow .earlier switch cs
  | edition, cs => readRow edition switch cs

/-- The argument that is left of a row of options. -/
def leftover : List Char → List String
  | [] => []
  | cs => [String.ofList ('-' :: cs)]

/-- Read classified arguments from the left, and put aside those without use. -/
def readArguments (edition : Edition) (c : Command) :
    List Argument → Except Refusal (Command × List String)
  | [] => .ok (c, [])
  | .separator :: rest =>
    if c.text.isNone then readArguments edition c rest
    else (readArguments edition c rest).map fun (c, unused) => (c, "--" :: unused)
  | .plain text :: .separator :: rest =>
    if c.text.isNone then readArguments edition { c with text := some text } rest
    else (readArguments edition c rest).map fun (c, unused) => (c, text :: "--" :: unused)
  | .plain text :: rest =>
    if c.text.isNone then readArguments edition { c with text := some text } rest
    else (readArguments edition c rest).map fun (c, unused) => (c, text :: unused)
  | .unknown text :: rest =>
    (readArguments edition c rest).map fun (c, unused) => (c, text :: unused)
  | .long switch (some value) :: rest => do
    let c ← c.setAttached edition switch value
    readArguments edition c rest
  | .short switch attached :: rest => do
    let (switches, behind) ← readShort edition switch attached
    let c ← switches.foldlM setEmpty c
    (readArguments edition c rest).map fun (c, unused) => (c, leftover behind ++ unused)
  | .long switch none :: .plain text :: rest =>
    if switch.arity = .none then do
      let c ← c.setEmpty switch
      readArguments edition c (.plain text :: rest)
    else do
      let c ← c.setValue switch text
      readArguments edition c rest
  | .long switch none :: rest =>
    if switch.arity = .one then .error (.usage (.valueMissing switch))
    else do
      let c ← c.setEmpty switch
      readArguments edition c rest

/-- Whether a command has an option text, other than an empty one. -/
def hasText (c : Command) : Bool := c.text.any (· ≠ "")

/-- The path of the page, unless it is empty. -/
def pagePath (c : Command) : Option String := c.page.filter (· ≠ "")

/-- Read the arguments of a command line. -/
def read (edition : Edition) (arguments : List String) : Except Refusal Command := do
  let classified ← (Argument.classifyAll arguments).mapError .usage
  let (c, unused) ← readArguments edition {} classified
  if !unused.isEmpty then throw (.usage (.unrecognized unused))
  if c.pagePath.isSome && c.hasText then throw (.usage .conflict)
  pure c

end Command
end WikiDates.CommandLine
