import WikiDates.Anchor
import WikiDates.Text.DecimalDigit
import WikiDates.Text.Quoted

/-!
# Arguments of the command line

    argument ──classify──▶ separator, plain text, option or unknown option

An argument with two dashes in front is an option if it is one of the spellings below, or the
beginning of just one of them; a value may be attached to it with an equals sign. An argument with one
dash is an option if its first letter is a short spelling, whatever is attached to that. The first
`--` separates: what follows it is plain text. Other arguments that start with a dash are unknown
options, except for the dash alone, negative numbers, and whatever holds a space: those are plain
text, as is any argument that does not start with a dash.
-/

namespace WikiDates.CommandLine

/-- An option of the command line. -/
inductive Switch where
  /-- Show what the options are. -/
  | help
  /-- The anchor that the date is relative to. -/
  | anchor
  /-- The page to render. -/
  | page
  /-- The present. -/
  | base
  /-- The locale. -/
  | locale
  /-- Render strictly. -/
  | strict
  /-- Tell everything. -/
  | verbose
  deriving DecidableEq, Repr

/-- How many values an option takes. -/
inductive Arity where
  | none
  | atMostOne
  | one
  deriving DecidableEq, Repr

/-- Why a command line is refused. -/
inductive UsageFault where
  /-- An argument is the beginning of several spellings. -/
  | ambiguous (argument : String) (spellings : List String)
  /-- The value of an option is missing. -/
  | valueMissing (switch : Switch)
  /-- An option that takes no value is given one. -/
  | valueIgnored (switch : Switch) (value : String)
  /-- The present is not an instant. -/
  | invalidBase (text : String)
  /-- There is no such anchor. -/
  | invalidAnchor (text : String)
  /-- Some arguments have no use. -/
  | unrecognized (arguments : List String)
  /-- A page and the options of a single marker are given. -/
  | conflict
  deriving DecidableEq, Repr

namespace Switch

/-- The spellings of all options. -/
def spellings : List (String × Switch) :=
  [("-h", help), ("--help", help), ("--widget", anchor), ("--expand", page), ("--base", base),
    ("--locale", locale), ("--strict", strict), ("-v", verbose), ("--verbose", verbose)]

/-- The option with the given spelling. -/
def ofSpelling? (spelling : String) : Option Switch := spellings.lookup spelling

/-- The option with the given letter as its short spelling. -/
def ofLetter? (c : Char) : Option Switch := ofSpelling? (String.ofList ['-', c])

/-- An option as it is named in reports. -/
def title (switch : Switch) : String :=
  "/".intercalate ((spellings.filter (·.2 == switch)).map Prod.fst)

/-- How many values an option takes. -/
def arity : Switch → Arity
  | anchor | base | locale => .one
  | page => .atMostOne
  | help | strict | verbose => .none

end Switch

/-- The wording of a usage fault. -/
def UsageFault.message : UsageFault → String
  | ambiguous argument spellings =>
    "ambiguous option: " ++ argument ++ " could match " ++ ", ".intercalate spellings
  | valueMissing switch => "argument " ++ switch.title ++ ": expected one argument"
  | valueIgnored switch value =>
    "argument " ++ switch.title ++ ": ignored explicit argument " ++ Text.quoted value
  | invalidBase text =>
    "argument " ++ Switch.base.title ++ ": invalid ISO 8601 date: " ++ Text.quoted text
  | invalidAnchor text =>
    "argument " ++ Switch.anchor.title ++ ": invalid choice: " ++ Text.quoted text ++
      " (choose from " ++ ", ".intercalate (Anchor.all.map fun a => Text.quoted a.name) ++ ")"
  | unrecognized arguments => "unrecognized arguments: " ++ " ".intercalate arguments
  | conflict => "datewidget: options cannot be combined with --expand"

/-- What an argument is. -/
inductive Argument where
  /-- The mark behind which there are no options. -/
  | separator
  /-- Plain text. -/
  | plain (text : String)
  /-- A long spelling of an option, or a short one alone, with the value that is attached to it. -/
  | long (switch : Switch) (value : Option String)
  /-- A short spelling of an option, with the characters that are attached to it. -/
  | short (switch : Switch) (attached : List Char)
  /-- No option that is known. -/
  | unknown (text : String)
  deriving DecidableEq, Repr

namespace Argument

/-- Whether `cs` is one digit or more, up to the end or a last line end. -/
def isDigits (cs : List Char) : Bool :=
  cs.head?.any Text.isDecimalDigit && [[], ['\n']].contains (cs.dropWhile Text.isDecimalDigit)

/-- Whether `cs` is a number with a minus sign: digits, or digits behind a point. A last line end is
passed over. -/
def isNegativeNumber : List Char → Bool
  | '-' :: cs =>
    isDigits cs ||
      match cs.dropWhile Text.isDecimalDigit with
      | '.' :: places => isDigits places
      | _ => false
  | _ => false

/-- Cut a text at its first equals sign, if there is one. -/
def cutValue (cs : List Char) : List Char × Option (List Char) :=
  match cs.dropWhile (· != '=') with
  | [] => (cs, none)
  | _ :: value => (cs.takeWhile (· != '='), some value)

/-- The options that a long name may stand for, with their spellings: the option that is spelled so,
or else all that have a spelling which begins so. -/
def meanings (name : List Char) : List (String × Switch) :=
  match Switch.ofSpelling? (String.ofList name) with
  | some switch => [(String.ofList name, switch)]
  | none => Switch.spellings.filter fun entry => name.isPrefixOf entry.1.toList

/-- Classify an argument with a dash in front that stands for no option. -/
def classifyOther (text : String) : Argument :=
  if isNegativeNumber text.toList || text.toList.contains ' ' then .plain text else .unknown text

/-- Classify an argument with two dashes in front. -/
def classifyLong (text : String) : Except UsageFault Argument :=
  let (name, value) := cutValue text.toList
  match meanings name with
  | [] => .ok (classifyOther text)
  | [(_, switch)] => .ok (.long switch (value.map String.ofList))
  | several => .error (.ambiguous text (several.map Prod.fst))

/-- Classify an argument with one dash in front. -/
def classifyShort (text : String) (letter : Char) (attached : List Char) : Argument :=
  match Switch.ofLetter? letter with
  | none => classifyOther text
  | some switch => if attached = [] then .long switch none else .short switch attached

/-- Classify an argument in front of the separator. -/
def classify (text : String) : Except UsageFault Argument :=
  match text.toList with
  | '-' :: '-' :: _ => classifyLong text
  | '-' :: letter :: attached => .ok (classifyShort text letter attached)
  | _ => .ok (.plain text)

/-- Classify the arguments of a command line. -/
def classifyAll : List String → Except UsageFault (List Argument)
  | [] => .ok []
  | text :: texts =>
    if text = "--" then .ok (.separator :: texts.map .plain)
    else do
      let argument ← classify text
      let arguments ← classifyAll texts
      pure (argument :: arguments)

end Argument
end WikiDates.CommandLine
