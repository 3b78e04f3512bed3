import WikiDates.Calendar.Instant
import WikiDates.Number.Shortest
import WikiDates.Text.Quoted

/-!
# Values of a configuration

Settings and references come from outside, where any value may stand in any place. Such a value is a
null, a truth value, a number, a text, a list, a dictionary in the order of its entries, an instant,
a date, or a whole record of settings. A value has a kind, which error messages name; it may be
*void*, which counts as not given; and it has a display form.
-/

namespace WikiDates

/-- A value from a configuration. -/
inductive Value where
  | null
  | bool (b : Bool)
  | int (n : Int)
  | float (negative : Bool) (magnitude : Binary64)
  /-- A number beyond all others. -/
  | infinite (negative : Bool)
  /-- The result of a computation that has none. -/
  | notANumber
  | text (s : String)
  | list (values : List Value)
  | dict (entries : List (String × Value))
  | instant (x : Instant)
  | date (d : Date)
  /-- Settings: the two formats, the locale, the base, and the mark of settings that are the
  defaults. -/
  | settings (dateFormat datetimeFormat locale base pristine : Value)
  deriving Inhabited, Repr

namespace Value

/-- The name of the kind of a value. -/
def kind : Value → String
  | null => "NoneType"
  | bool _ => "bool"
  | int _ => "int"
  | float .. | infinite _ | notANumber => "float"
  | text _ => "str"
  | list _ => "list"
  | dict _ => "dict"
  | instant _ => "datetime"
  | date _ => "date"
  | settings .. => "Settings"

/-- The name of the kind of a value, with that of the family that it belongs to. -/
def fullKind : Value → String
  | instant _ => "datetime.datetime"
  | date _ => "datetime.date"
  | v => v.kind

/-- Whether a value counts as not given: null, false, zero, and whatever is empty. -/
def isVoid : Value → Bool
  | null => true
  | bool b => !b
  | int n => n == 0
  | float _ x => x.significand == 0
  | text s => s == ""
  | list values => values.isEmpty
  | dict entries => entries.isEmpty
  | infinite _ | notANumber | instant _ | date _ | settings .. => false

end Value

/-! ### Display forms -/

/-- The display form of a date. -/
def Date.display (d : Date) : String :=
  "datetime.date(" ++ ", ".intercalate ([d.year, d.month, d.day].map toString) ++ ")"

/-- The display form of an instant. Seconds and microseconds are left out from the end while they
are zero. -/
def Instant.display (x : Instant) : String :=
  let fine :=
    if x.time.microsecond ≠ 0 then [x.time.second, x.time.microsecond]
    else if x.time.second ≠ 0 then [x.time.second]
    else []
  "datetime.datetime(" ++ ", ".intercalate
    (([x.date.year, x.date.month, x.date.day, x.time.hour, x.time.minute] ++ fine).map toString)
    ++ ")"

namespace Value

mutual

/-- The display form of a value. -/
def display : Value → String
  | null => "None"
  | bool true => "True"
  | bool false => "False"
  | int n => toString n
  | float negative x =>
    String.ofList (if negative then '-' :: Numeral.shortest x else Numeral.shortest x)
  | infinite negative => if negative then "-inf" else "inf"
  | notANumber => "nan"
  | text s => Text.quoted s
  | list values => "[" ++ ", ".intercalate (displayAll values) ++ "]"
  | dict entries => "\x7b" ++ ", ".intercalate (displayEntries entries) ++ "\x7d"
  | instant x => x.display
  | date d => d.display
  | settings dateFormat datetimeFormat locale base _ =>
    "Settings(DATE_FORMAT=" ++ display dateFormat ++ ", DATETIME_FORMAT=" ++
      display datetimeFormat ++ ", LOCALE=" ++ display locale ++ ", RELATIVE_BASE=" ++
      display base ++ ")"

/-- The display forms of values. -/
def displayAll : List Value → List String
  | [] => []
  | v :: values => display v :: displayAll values

/-- The display forms of the entries of a dictionary. -/
def displayEntries : List (String × Value) → List String
  | [] => []
  | (key, v) :: entries => (Text.quoted key ++ ": " ++ display v) :: displayEntries entries

end

/-- A value as running text: an instant without the letter between its date and its time, a text as
it is, and the display form of any other value. -/
def plain : Value → String
  | instant x => x.toText " "
  | date d => d.toText
  | text s => s
  | v => v.display

end Value
end WikiDates
