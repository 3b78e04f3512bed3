import WikiDates.Text.Cased
import WikiDates.Text.CaseMapping

/-!
# Lower, upper and title case of texts

A text changes case character by character. Two rules look at what stands around a character. The
capital sigma has two lower cases, one of them for the end of a word. In title case a character is
raised at the start of a word and lowered within one, and it is within a word if the character in
front of it is cased.

`mapInContext` is the walk that they share: it hands over each character with the characters in
front of it, the nearest first, and those behind it.
-/

namespace WikiDates.Text

/-- What a character becomes, from the characters in front of it, the nearest first, and those
behind it. -/
abbrev ContextMap := List Char → Char → List Char → List Char

/-- Map every character of `cs`, in front of which stands `front`. -/
def mapInContext (f : ContextMap) (front : List Char) : List Char → List Char
  | [] => []
  | c :: cs => f front c cs ++ mapInContext f (c :: front) cs

/-- Whether the nearest character that is not case-ignorable is cased. -/
def nextIsCased (cs : List Char) : Bool := (cs.dropWhile isCaseIgnorable).head?.any isCased

/-- The lower case of a character in its place. -/
def lowerAt : ContextMap := fun front c behind =>
  if c = 'Σ' then [if nextIsCased front && !nextIsCased behind then 'ς' else 'σ']
  else (lowerMapping.find? c).getD [c]

/-- The upper case of a character. -/
def upperOf (c : Char) : List Char := (upperMapping.find? c).getD [c]

/-- The title case of a character. -/
def titleOf (c : Char) : List Char := (titleMapping.find? c).getD (upperOf c)

/-- The title case of a character in its place. -/
def titleAt : ContextMap := fun front c behind =>
  if front.head?.any isCased then lowerAt front c behind else titleOf c

/-- The lower case of a text. -/
def lowerCase (cs : List Char) : List Char := mapInContext lowerAt [] cs

/-- The upper case of a text. -/
def upperCase (cs : List Char) : List Char := cs.flatMap upperOf

/-- The title case of a text. -/
def titleCase (cs : List Char) : List Char := mapInContext titleAt [] cs

end WikiDates.Text
