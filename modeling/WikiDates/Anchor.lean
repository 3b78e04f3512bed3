/-!
# Anchors

A marker names the day that its date is relative to: the present, the day after it or the day before
it.
-/

namespace WikiDates

/-- The day that a marker starts from. -/
inductive Anchor where
  | now
  | tomorrow
  | yesterday
  deriving DecidableEq, Repr

namespace Anchor

/-- All anchors. -/
def all : List Anchor := [now, tomorrow, yesterday]

/-- The name of an anchor in a marker. -/
def name : Anchor → String
  | now => "now"
  | tomorrow => "tomorrow"
  | yesterday => "yesterday"

/-- How many days an anchor is after the present. -/
def days : Anchor → Int
  | now => 0
  | tomorrow => 1
  | yesterday => -1

/-- The anchor of the given name. -/
def ofName? (s : String) : Option Anchor := all.find? (·.name == s)

theorem mem_all (a : Anchor) : a ∈ all := by cases a <;> decide

@[simp] theorem ofName?_name (a : Anchor) : ofName? a.name = some a := by cases a <;> decide

theorem name_of_ofName? {s : String} {a : Anchor} (h : ofName? s = some a) : a.name = s := by
  simpa using List.find?_some h

end Anchor
end WikiDates
