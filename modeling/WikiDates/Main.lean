import Std.Time.Format
import WikiDates.CommandLine.Report

/-!
# The program

Reads the clock, the standard input and the page that a command asks for, runs the command line on
them, and shows its report. The notices of a rendering go to the error output; those of its single
steps only if the command asks for them.
-/

namespace WikiDates.CommandLine

/-- The present, as the local clock shows it. -/
def localClock : IO Instant := do
  let now ← Std.Time.PlainDateTime.now
  let date := Date.of? now.date.year.toInt.toNat now.date.month.val.toNat now.date.day.val.toNat
  let time := TimeOfDay.of? now.time.hour.val.toNat now.time.minute.val.toNat
    now.time.second.val.toNat (now.time.nanosecond.val.toNat / 1000)
  match date, time with
  | some date, some time => pure ⟨date, time⟩
  | _, _ => throw (IO.userError Failure.dateOutside.message)

/-- All that remains on a stream, behind what was read. -/
partial def readAll (stream : IO.FS.Stream) (read : String) : IO String := do
  let line ← stream.getLine
  if line.isEmpty then pure read else readAll stream (read ++ line)

/-- The reason of an error in reading a file, by the number that the system gives it. -/
def fileFault : IO.Error → FileFault
  | .inappropriateType _ 20 _ => .notDirectory
  | .inappropriateType _ 21 _ => .directory
  | .invalidArgument _ 36 _ => .nameTooLong
  | _ => .missing

/-- Read the file at a path. -/
def readFile (path : String) : IO (Except FileFault String) :=
  if path.contains '\x00' then pure (.error .invalidPath)
  else
    try
      return .ok (← IO.FS.readFile path)
    catch e =>
      return .error (fileFault e)

/-- How the program reads its arguments. -/
def edition : Edition := .later

/-- What a command line is run in, where `c` says which page it asks for. -/
def surroundings (c : Option Command) : IO Surroundings := do
  let present ← localClock
  let path := c.bind Command.pagePath
  let input ← if path = some "-" then readAll (← IO.getStdin) "" else pure ""
  let file ← match path with
    | some path => readFile path
    | none => pure (.error .missing)
  pure { edition, input, file := fun _ => file, clock := fun _ => present }

end WikiDates.CommandLine

open WikiDates CommandLine

/-- Run the command line. -/
def main (arguments : List String) : IO UInt32 := do
  let command := (Command.read edition arguments).toOption
  match CommandLine.run arguments (← surroundings command) with
  | .ok report =>
    for notice in report.notices do
      if notice.level ≠ .debug || command.any Command.verbose then IO.eprintln notice.toText
    if let some fault := report.usage then IO.eprint fault.report
    IO.print report.output
    pure report.code.toUInt32
  | .error failure =>
    IO.eprintln failure.message
    pure 1
