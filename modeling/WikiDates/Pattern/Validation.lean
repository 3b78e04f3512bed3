import WikiDates.Pattern.Item
import WikiDates.Text.Quoted

/-!
# Valid date patterns

A pattern is checked before it is used, so that a slip shows where the pattern is written and not on
the page. Three things are asked for, in this order: every quotation is closed; every ASCII letter
outside quotations is a field letter; every field has a width that its letter allows.

The first two are asked of the text that remains when pairs of apostrophes and then quotations are
cut out of it; the third of the items of the pattern.
-/

namespace WikiDates.Pattern

/-- Why a text is not a pattern. -/
inductive Fault where
  /-- A quotation is not closed. -/
  | openQuotation
  /-- These ASCII letters stand outside quotations and are no field letters. -/
  | unknownLetters (letters : List Char)
  /-- A field is too wide, or has a width that its letter skips. -/
  | badWidth (letter : Char) (width : Nat)
  deriving DecidableEq, Repr

/-- The report of a fault. -/
def Fault.message : Fault → String
  | openQuotation => "unterminated quote"
  | unknownLetters letters =>
    "illegal pattern character(s) " ++ ", ".intercalate (letters.map Text.quotedChar)
  | badWidth letter width =>
    "Invalid length for field: " ++ Text.quoted (fieldText letter width)

/-! ### Cutting quotations out -/

/-- Cut out pairs of apostrophes, from the left. -/
def withoutPairs : List Char → List Char
  | [] => []
  | '\'' :: '\'' :: cs => withoutPairs cs
  | c :: cs => c :: withoutPairs cs

/-- What follows the next apostrophe, if there is one. -/
def afterQuote? : List Char → Option (List Char)
  | [] => none
  | c :: cs => if c = '\'' then some cs else afterQuote? cs

theorem length_afterQuote?_lt {cs rest : List Char} (h : afterQuote? cs = some rest) :
    rest.length < cs.length := by
  induction cs with
  | nil => simp [afterQuote?] at h
  | cons c cs ih =>
    simp only [afterQuote?] at h
    split at h
    · cases h; simp
    · have := ih h; simp only [List.length_cons]; omega

/-- Cut out every quotation with its two apostrophes. An apostrophe that opens a quotation without
an end stays. -/
def withoutQuotations : List Char → List Char
  | [] => []
  | c :: cs =>
    if c = '\'' then
      match _h : afterQuote? cs with
      | some rest => withoutQuotations rest
      | none => c :: withoutQuotations cs
    else c :: withoutQuotations cs
termination_by cs => cs.length
decreasing_by
  · have := length_afterQuote?_lt _h; simp only [List.length_cons]; omega
  all_goals simp

/-- The text outside quotations. -/
def outside (cs : List Char) : List Char := withoutQuotations (withoutPairs cs)

/-- The ASCII letters of a text that are no field letters, each once, in the order of their codes.
-/
def unknownLettersIn (cs : List Char) : List Char :=
  asciiLetters.filter fun c => cs.contains c && !isFieldLetter c

/-- The first field of a pattern with a width that its letter does not allow. -/
def badField? (items : List Item) : Option (Char × Nat) :=
  items.findSome? fun
    | .literal _ => none
    | .field letter width => if allowsWidth letter width then none else some (letter, width)

/-- Read a pattern. -/
def parse (s : String) : Except Fault Pattern :=
  let rest := outside s.toList
  if rest.contains '\'' then .error .openQuotation
  else
    match unknownLettersIn rest with
    | [] =>
      match badField? (items s) with
      | none => .ok (items s)
      | some (letter, width) => .error (.badWidth letter width)
    | letters => .error (.unknownLetters letters)

end WikiDates.Pattern
