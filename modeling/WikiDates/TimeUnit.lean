/-!
# Time units

The units that a time expression can name, each by one letter. Letters are case sensitive: `m` is a
minute and `M` a month, `s` a second and `S` a millisecond.
-/

namespace WikiDates

/-- A unit of calendar time. -/
inductive TimeUnit where
  | year
  | month
  | day
  | hour
  | minute
  | second
  | millisecond
  deriving DecidableEq, Repr, Inhabited

namespace TimeUnit

/-- All units, the largest first. -/
def all : List TimeUnit := [year, month, day, hour, minute, second, millisecond]

/-- The letter that stands for a unit in an expression. -/
def letter : TimeUnit → Char
  | year => 'y'
  | month => 'M'
  | day => 'd'
  | hour => 'h'
  | minute => 'm'
  | second => 's'
  | millisecond => 'S'

/-- The name of a unit in reports. -/
def name : TimeUnit → String
  | year => "YEAR"
  | month => "MONTH"
  | day => "DAY"
  | hour => "HOUR"
  | minute => "MINUTE"
  | second => "SECOND"
  | millisecond => "MILLISECOND"

/-- The unit with the given letter. -/
def ofLetter? (c : Char) : Option TimeUnit := all.find? (·.letter == c)

/-- The unit with the given name. -/
def ofName? (s : String) : Option TimeUnit := all.find? (·.name == s)

theorem mem_all (u : TimeUnit) : u ∈ all := by cases u <;> decide

@[simp] theorem ofLetter?_letter (u : TimeUnit) : ofLetter? u.letter = some u := by
  cases u <;> decide

theorem letter_of_ofLetter? {c : Char} {u : TimeUnit} (h : ofLetter? c = some u) :
    u.letter = c := by
  simpa using List.find?_some h

end TimeUnit
end WikiDates
