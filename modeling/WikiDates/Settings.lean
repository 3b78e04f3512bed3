import WikiDates.Format
import WikiDates.Options.Basic
import WikiDates.Value

/-!
# Settings

Settings are the two default formats, the locale, and the base that a session takes for the present.
They are given as a dictionary, which is merged over the defaults and checked, or as a record, which
is used as it is: a record may hold any value in any place, and what cannot be used fails where it
is needed. A void argument stands for the defaults.

A dictionary is checked in two passes over its entries: first that every name is a setting, then
that every value is of the right kind and is a valid pattern, a known locale or an instant.
-/

namespace WikiDates

/-- Settings. -/
structure Settings where
  /-- The format of a date. -/
  dateFormat : Value := .text "dd/MM/yyyy"
  /-- The format of a date with a time. -/
  datetimeFormat : Value := .text "dd/MM/yyyy HH:mm"
  /-- The locale. -/
  locale : Value := .text "en_US"
  /-- The present of a session; if it is void, the clock is read. -/
  base : Value := .null
  /-- The mark of settings that were not merged with others. -/
  pristine : Value := .bool true
  deriving Inhabited, Repr

/-- The name of a setting in a dictionary. -/
inductive SettingKey where
  | dateFormat
  | datetimeFormat
  | locale
  | base
  deriving DecidableEq, Repr

/-- The setting of the given name. -/
def SettingKey.ofName? : String → Option SettingKey
  | "DATE_FORMAT" => some dateFormat
  | "DATETIME_FORMAT" => some datetimeFormat
  | "LOCALE" => some locale
  | "RELATIVE_BASE" => some base
  | _ => none

/-- A dictionary of settings, in the order in which it is written. -/
abbrev SettingEntries := List (String × Value)

namespace Settings

/-! ### Building settings -/

/-- Change one setting. Names that are no settings are passed over. -/
def set (s : Settings) (entry : String × Value) : Settings :=
  match SettingKey.ofName? entry.1 with
  | some .dateFormat => { s with dateFormat := entry.2 }
  | some .datetimeFormat => { s with datetimeFormat := entry.2 }
  | some .locale => { s with locale := entry.2 }
  | some .base => { s with base := entry.2 }
  | none => s

/-- Settings with the given entries, and the defaults for what they leave out. -/
def ofEntries (entries : SettingEntries) : Settings :=
  { entries.foldl set {} with
    pristine := (entries.lookup "_default").getD (.bool true) }

/-- Change settings by the entries of a dictionary. -/
def merge (s : Settings) (entries : SettingEntries) : Settings :=
  { entries.foldl set s with pristine := .bool false }

/-- Refuse an entry under one of the three names that every record keeps for itself. Under one of
them a dictionary may stand. -/
def checkFixed (entry : String × Value) : Except Failure Unit :=
  match entry.1, entry.2 with
  | "__dict__", .dict _ => .ok ()
  | "__class__", v | "__dict__", v | "__weakref__", v => .error (.fixedName entry.1 v.fullKind)
  | _, _ => .ok ()

/-- Change settings by the entries of a dictionary that is given as named arguments, where the name
`self` is already taken. -/
def replace (s : Settings) (entries : SettingEntries) : Except Failure Settings := do
  if (entries.lookup "self").isSome then throw (.reservedKey "self")
  entries.forM checkFixed
  pure (s.merge entries)

/-- Change settings dictionary by dictionary. One that fails leaves them as they are. An entry of
the name `replace` hides the operation: with it, settings cannot be changed any more. `hidden` is
the value of that entry, if there is one. -/
def replaceAll (s : Settings) (hidden : Option Value) :
    List SettingEntries → List (Except Failure Settings)
  | [] => []
  | entries :: rest =>
    match hidden with
    | some v => .error (.hiddenOperation v.fullKind) :: replaceAll s hidden rest
    | none =>
      match s.replace entries with
      | .ok t => .ok t :: replaceAll t (entries.lookup "replace") rest
      | .error failure => .error failure :: replaceAll s none rest

/-- Settings as a value. -/
def toValue (s : Settings) : Value :=
  .settings s.dateFormat s.datetimeFormat s.locale s.base s.pristine

/-- The display form of settings. -/
def display (s : Settings) : String := s.toValue.display

/-! ### Checking a dictionary -/

/-- Accept the value of a format. -/
def checkPattern (key : String) : Value → Except SettingFault Unit
  | .text s =>
    match Pattern.parse s with
    | .ok _ => .ok ()
    | .error fault => .error (.notPattern key fault)
  | v => .error (.wrongKind key "str" v.kind)

/-- Accept the value of the locale. -/
def checkLocale (key : String) : Value → Except SettingFault Unit
  | .text s =>
    match Locale.parse s with
    | .ok _ => .ok ()
    | .error fault => .error (.notLocale s fault)
  | v => .error (.wrongKind key "str" v.kind)

/-- Accept the value of the base. -/
def checkBase : Value → Except SettingFault Unit
  | .null | .instant _ => .ok ()
  | v => .error (.notBase v.kind)

/-- Accept the name of an entry. -/
def checkKey (entry : String × Value) : Except SettingFault Unit :=
  if (SettingKey.ofName? entry.1).isSome then .ok () else .error (.unknownKey entry.1)

/-- Accept the value of an entry. -/
def checkEntry (entry : String × Value) : Except SettingFault Unit :=
  match SettingKey.ofName? entry.1 with
  | some .dateFormat | some .datetimeFormat => checkPattern entry.1 entry.2
  | some .locale => checkLocale entry.1 entry.2
  | some .base => checkBase entry.2
  | none => .ok ()

/-- Accept a dictionary: all names first, then the values in order. -/
def check (entries : SettingEntries) : Except SettingFault Unit := do
  entries.forM checkKey
  entries.forM checkEntry

/-- The settings that an argument stands for. -/
def ofArgument (argument : Value) : Except Failure Settings :=
  if argument.isVoid then .ok {}
  else
    match argument with
    | .dict entries => do
      if (entries.lookup "mod_settings").isSome then throw (.reservedKey "mod_settings")
      let s ← ({} : Settings).replace entries
      (check entries).mapError .setting
      pure s
    | .settings dateFormat datetimeFormat locale base pristine =>
      .ok { dateFormat, datetimeFormat, locale, base, pristine }
    | _ => .error .notSettings

/-! ### Writing with settings -/

/-- The format that options select: their own, or one of the two default formats. -/
def formatFor (s : Settings) (o : Options) : Value :=
  match o.format with
  | some pattern => .text pattern
  | none => if o.showTime then s.datetimeFormat else s.dateFormat

/-- Read a value as a date pattern. -/
def readPattern : Value → Except Failure Pattern
  | .text s => (Pattern.parse s).mapError (.invalidPattern s)
  | _ => .error .patternNotText

/-- Read a value as a locale. -/
def readLocale : Value → Except Failure Locale
  | .text s => (Locale.parse s).mapError .locale
  | v =>
    if v.isVoid then .error (.locale (.void v.display)) else .error (.locale (.notText v.display))

/-- The text of a date or an instant, written with a pattern in a locale. -/
def write (v pattern locale : Value) : Except Failure String := do
  let p ← readPattern pattern
  match v with
  | .instant x => p.format (← readLocale locale) x
  | .date d => p.formatDate (← readLocale locale) d
  | _ => throw .notDated

/-- The text of an instant, in the format that options select. -/
def format (s : Settings) (o : Options) (x : Instant) : Except Failure String :=
  write (.instant x) (s.formatFor o) s.locale

end Settings
end WikiDates
