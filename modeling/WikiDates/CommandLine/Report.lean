import WikiDates.CommandLine.Command
import WikiDates.Text.Newline

/-!
# Running a command

    command ──outcome──▶ rendering ──report──▶ exit code, output, notices

A command line is run in surroundings: they say how arguments are read, and give the standard input,
the files, and a clock.
Its report says what it leaves behind. A rendering that succeeds is put out with a line end behind
it. A fault of a marker or of the settings is told in a notice, and nothing is put out. Any other
failure is no matter of the report: it ends the program.
-/

namespace WikiDates.CommandLine

/-- What a command line is run in. -/
structure Surroundings where
  /-- How arguments are read. -/
  edition : Edition
  /-- The text on the standard input. -/
  input : String
  /-- The text in the file at a path. -/
  file : String → Except FileFault String
  /-- The readings of the clock. -/
  clock : Nat → Instant

/-- What a command line leaves behind. -/
structure Report where
  /-- The exit code. -/
  code : Nat
  /-- The text on the standard output. -/
  output : String := ""
  /-- The notices, in order. -/
  notices : List Notice := []
  /-- The fault of the command line. -/
  usage : Option UsageFault := none

namespace Command

/-- The settings of a command, as an argument of a session. An empty locale counts as not given. -/
def settings (c : Command) : Value :=
  .dict ((c.base.map fun x => ("RELATIVE_BASE", Value.instant x)).toList ++
    ((c.locale.filter (· ≠ "")).map fun l => ("LOCALE", Value.text l)).toList)

/-- The text of the page at a path. -/
def readPage (w : Surroundings) (path : String) : Except Failure String :=
  let raw := if path = "-" then .ok w.input else w.file path
  match raw with
  | .ok text => .ok (String.ofList (Text.unifyLineEnds text.toList))
  | .error fault => .error (.unreadable path fault)

/-- Render what a command asks for, in a session. -/
def renderIn (c : Command) (s : Session) (w : Surroundings) : Outcome String :=
  match c.pagePath, c.anchor with
  | some path, _ =>
    match readPage w path with
    | .ok page => (s.renderPage w.clock page c.strict).1
    | .error failure => ⟨.error failure, []⟩
  | none, some a => (s.render w.clock a.name c.text).1
  | none, none => ⟨.error .noName, []⟩

/-- Render what a command asks for. -/
def outcome (c : Command) (w : Surroundings) : Outcome String :=
  match Session.start c.settings with
  | .ok s => c.renderIn s w
  | .error failure => ⟨.error failure, []⟩

/-- Run a command. -/
def run (c : Command) (w : Surroundings) : Except Failure Report :=
  let o := c.outcome w
  match o.result with
  | .ok text => .ok { code := 0, output := Text.withLineEnd text, notices := o.notices }
  | .error failure =>
    if failure.isReported then
      .ok { code := 1, notices := o.notices ++ [.commandFailed failure] }
    else .error failure

end Command

/-- How the program is called. -/
def usageText : String :=
  "usage: datewidget [-h] [--widget \x7bnow,tomorrow,yesterday\x7d] [--expand [FILE]]\n" ++
  "                  [--base BASE] [--locale LOCALE] [--strict] [-v]\n" ++
  "                  [options]\n"

/-- What the options are, for lines of 80 characters. -/
def helpText : String :=
  usageText ++ "\n" ++
  "Render !now, !tomorrow and !yesterday date widgets.\n" ++
  "\n" ++
  "positional arguments:\n" ++
  "  options               Widget options, e.g. \"2012y +1d -t\" or '-f\"yyyy/MM/dd\n" ++
  "                        HH:mm\"'\n" ++
  "\n" ++
  "options:\n" ++
  "  -h, --help            show this help message and exit\n" ++
  "  --widget \x7bnow,tomorrow,yesterday\x7d\n" ++
  "                        Widget whose reference date is used (default: now)\n" ++
  "  --expand [FILE]       Render every widget found in FILE (or standard input)\n" ++
  "                        instead\n" ++
  "  --base BASE           Reference date in ISO 8601 format, instead of the\n" ++
  "                        current time\n" ++
  "  --locale LOCALE       Locale used to format names of months and days\n" ++
  "                        (default: en_US)\n" ++
  "  --strict              Fail on the first widget that cannot be rendered\n" ++
  "  -v, --verbose         Log debug information\n" ++
  "\n" ++
  "Options starting with \"-\" must follow \"--\", e.g.: datewidget -- \"+1d -t\"\n"

/-- Run a command line. -/
def run (arguments : List String) (w : Surroundings) : Except Failure Report :=
  match Command.read w.edition arguments with
  | .ok c => c.run w
  | .error .help => .ok { code := 0, output := helpText }
  | .error (.usage fault) => .ok { code := 2, usage := some fault }
  | .error (.failure failure) => .error failure

/-- What a usage fault leaves on the error output. -/
def UsageFault.report (fault : UsageFault) : String :=
  usageText ++ "datewidget: error: " ++ fault.message ++ "\n"

end WikiDates.CommandLine
