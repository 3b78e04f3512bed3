import WikiDates.Anchor
import WikiDates.Calendar.Shift
import WikiDates.Expression
import WikiDates.Locale.Identifier
import WikiDates.Pattern.Validation

/-!
# Failures

Whatever can go wrong is one of the causes listed here, and `Failure.message` words it. The first
six causes are faults of a *marker*: of its options or of the date that they lead to. A lenient
rendering of a page shows such a fault in place of the marker and goes on. All other causes end a
rendering.
-/

namespace WikiDates

/-- Why settings are not accepted. -/
inductive SettingFault where
  /-- There is no setting of that name. -/
  | unknownKey (key : String)
  /-- A value is not of the kind that the setting asks for. -/
  | wrongKind (key wanted found : String)
  /-- The base is neither null nor an instant. -/
  | notBase (found : String)
  /-- A format is not a date pattern. -/
  | notPattern (key : String) (fault : Pattern.Fault)
  /-- The locale is not known. -/
  | notLocale (text : String) (fault : Locale.Fault)
  deriving DecidableEq, Repr

/-- The report of a text that names no locale. -/
def Locale.Fault.report (text : String) (fault : Locale.Fault) : String :=
  "Unknown locale " ++ Text.quoted text ++ ": " ++ fault.message

/-- The report of a fault in settings. -/
def SettingFault.message : SettingFault → String
  | unknownKey key => "\"" ++ key ++ "\" is not a valid setting"
  | wrongKind key wanted found =>
    "\"" ++ key ++ "\" must be \"" ++ wanted ++ "\", not \"" ++ found ++ "\"."
  | notBase found => "\"RELATIVE_BASE\" must be \"datetime\" or None, not \"" ++ found ++ "\"."
  | notPattern key fault =>
    "\"" ++ key ++ "\" is not a valid date pattern: " ++ fault.message
  | notLocale text fault => "\"LOCALE\": " ++ fault.report text

/-- Why a file cannot be read. -/
inductive FileFault where
  /-- There is no such file. -/
  | missing
  /-- The path leads to a directory. -/
  | directory
  /-- The path goes on behind a file. -/
  | notDirectory
  /-- A name in the path, or the path, is too long. -/
  | nameTooLong
  /-- The path holds a character that no path may hold. -/
  | invalidPath
  deriving DecidableEq, Repr

/-- The report of a fault in reading the file at a path. -/
def FileFault.report (path : String) : FileFault → String
  | missing => "[Errno 2] No such file or directory: " ++ Text.quoted path
  | directory => "[Errno 21] Is a directory: " ++ Text.quoted path
  | notDirectory => "[Errno 20] Not a directory: " ++ Text.quoted path
  | nameTooLong => "[Errno 36] File name too long: " ++ Text.quoted path
  | invalidPath => "embedded null byte"

/-- Why an operation fails. -/
inductive Failure where
  /-- An expression holds something that is neither a digit nor the letter of a unit. -/
  | unknownUnit (e : UnknownUnit)
  /-- A format is not a date pattern. -/
  | invalidPattern (pattern : String) (fault : Pattern.Fault)
  /-- The year is set to zero. -/
  | yearZero
  /-- A shift leads out of the calendar. -/
  | outOfRange (shift : Shift) (start : Instant) (fault : RangeFault)
  /-- A shift leads out of the calendar from a date without a time. -/
  | dateOutOfRange (shift : Shift) (start : Date) (fault : RangeFault)
  /-- No marker has that name. -/
  | unknownAnchor (name : String)
  /-- Settings are not accepted. -/
  | setting (fault : SettingFault)
  /-- A number is too large for a double-precision number. -/
  | notFinite
  /-- A number has too many digits to be written out. -/
  | tooManyDigits
  /-- A week can only be numbered with the help of a year outside the calendar. -/
  | yearOutside (year : Nat)
  /-- The locale has no name for a period of the day. -/
  | unnamedPeriod (period locale : String)
  /-- There is no rule for a field letter. -/
  | unsupportedField (letter : Char)
  /-- A value names no locale. -/
  | locale (fault : Locale.Fault)
  /-- A text names no locale, and is reported with that text. -/
  | invalidLocale (text : String) (fault : Locale.Fault)
  /-- A pattern is not a text. -/
  | patternNotText
  /-- A reference is not an instant. -/
  | notInstant (kind : String)
  /-- A shift cannot be applied to a reference. -/
  | notShiftable (kind : String)
  /-- A reference lacks a part that is asked for, such as its day or its hour. -/
  | missingPart (kind part : String)
  /-- What is to be written is neither a date nor an instant. -/
  | notDated
  /-- The settings are neither a dictionary nor settings. -/
  | notSettings
  /-- A dictionary of settings uses a reserved name. -/
  | reservedKey (key : String)
  /-- A dictionary of settings uses a name under which settings cannot hold such a value. -/
  | fixedName (key kind : String)
  /-- The operation that changes settings is hidden by a value of its name. -/
  | hiddenOperation (kind : String)
  /-- There is no unit of that name. -/
  | noUnit (name : String)
  /-- The file at that path cannot be read. -/
  | unreadable (path : String) (fault : FileFault)
  /-- A written date leads out of the calendar. -/
  | dateOutside
  /-- An empty list of values stands where the name of an anchor is needed. -/
  | noName
  deriving DecidableEq, Repr

namespace Failure

/-- Whether a failure is the fault of a marker. -/
def isMarkerFault : Failure → Bool
  | unknownUnit _ | invalidPattern .. | yearZero | outOfRange .. | dateOutOfRange ..
  | unknownAnchor _ => true
  | _ => false

/-- Whether a failure is the fault of what a user wrote: of a marker or of settings. -/
def isReported : Failure → Bool
  | setting _ => true
  | failure => failure.isMarkerFault

/-- The report of a failure. -/
def message : Failure → String
  | unknownUnit e => e.message
  | invalidPattern pattern fault =>
    "Invalid date format " ++ Text.quoted pattern ++ ": " ++ fault.message
  | yearZero => "Year 0 is out of range"
  | outOfRange shift start fault =>
    "Cannot apply " ++ shift.toText ++ " to " ++ start.isoText ++ ": " ++ fault.message
  | dateOutOfRange shift start fault =>
    "Cannot apply " ++ shift.toText ++ " to " ++ start.toText ++ ": " ++ fault.message
  | unknownAnchor name =>
    "Unknown date widget " ++ Text.quoted name ++ ", expected one of " ++
      ", ".intercalate (Anchor.all.map Anchor.name)
  | setting fault => fault.message
  | notFinite => "int too large to convert to float"
  | tooManyDigits =>
    "Exceeds the limit (4300 digits) for integer string conversion; " ++
      "use sys.set_int_max_str_digits() to increase the limit"
  | yearOutside year => "year " ++ toString year ++ " is out of range"
  | unnamedPeriod period place => "Could not format period " ++ period ++ " in " ++ place
  | unsupportedField letter =>
    Text.quoted ("Unsupported date/time field " ++ Text.quotedChar letter)
  | locale fault => fault.message
  | invalidLocale text fault => fault.report text
  | patternNotText => "expected string or buffer"
  | notInstant kind => "Reference must be a datetime, not " ++ kind
  | notShiftable "str" => "can only concatenate str (not \"relativedelta\") to str"
  | notShiftable "list" => "can only concatenate list (not \"relativedelta\") to list"
  | notShiftable kind =>
    "unsupported operand type(s) for +: '" ++ kind ++ "' and 'relativedelta'"
  | missingPart kind part => "'" ++ kind ++ "' object has no attribute '" ++ part ++ "'"
  | notDated => ""
  | notSettings => "settings can only be either dict or instance of Settings class"
  | reservedKey "self" => "Settings.replace() got multiple values for argument 'self'"
  | reservedKey key =>
    "datewidget.conf.Settings.replace() got multiple values for keyword argument " ++
      Text.quoted key
  | fixedName "__class__" kind => "__class__ must be set to a class, not '" ++ kind ++ "' object"
  | fixedName "__dict__" kind => "__dict__ must be set to a dictionary, not a '" ++ kind ++ "'"
  | fixedName key _ => "attribute '" ++ key ++ "' of 'Settings' objects is not writable"
  | hiddenOperation kind => "'" ++ kind ++ "' object is not callable"
  | noUnit name => Text.quoted name
  | unreadable path fault => fault.report path
  | dateOutside => "date value out of range"
  | noName => "unhashable type: 'list'"

end Failure
end WikiDates
