/-!
# Line ends

A text that is read from outside may end its lines in three ways: with a line feed, with a carriage
return, or with both in that order. Inside, a line ends with a line feed.
-/

namespace WikiDates.Text

/-- Write every line end as a line feed. -/
def unifyLineEnds : List Char → List Char
  | [] => []
  | '\r' :: '\n' :: cs => '\n' :: unifyLineEnds cs
  | c :: cs => (if c = '\r' then '\n' else c) :: unifyLineEnds cs

/-- A text with a line end behind it, unless it ends with one. -/
def withLineEnd (s : String) : String :=
  if s.toList.getLast? = some '\n' then s else s ++ "\n"

end WikiDates.Text
