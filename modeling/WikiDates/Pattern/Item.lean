import WikiDates.Pattern.Field

/-!
# Reading a date pattern

    text ──glyphs──▶ glyphs ──collect──▶ items ──template──▶ text

A pattern is a text of fields and literal characters. Two apostrophes in a row stand for one literal
apostrophe, wherever they are; they are paired from the left. Every other apostrophe opens or closes
a quotation, inside which all characters are literal. Outside, a field letter is part of a field,
and equal letters in a row are one field; any other character is literal. U+0000 is a second way to
write a literal apostrophe.
-/

namespace WikiDates

namespace Pattern

/-- A character of a pattern, after its apostrophes have been read. -/
inductive Glyph where
  /-- A character that is copied. -/
  | literal (c : Char)
  /-- A field letter outside quotations. -/
  | letter (c : Char)
  deriving DecidableEq, Repr

/-- A part of a pattern. -/
inductive Item where
  /-- A character that is copied. -/
  | literal (c : Char)
  /-- A field. -/
  | field (letter : Char) (width : Nat)
  deriving DecidableEq, Repr

/-- The literal character that `c` stands for. -/
def literalOf (c : Char) : Char := if c = '\x00' then '\'' else c

/-- The reading of one character that is no apostrophe. -/
def glyphOf (quoted : Bool) (c : Char) : Glyph :=
  if !quoted && isFieldLetter c then .letter c else .literal (literalOf c)

/-- The reading of a text, which starts inside a quotation if `quoted`. -/
def glyphs (quoted : Bool) : List Char → List Glyph
  | [] => []
  | '\'' :: '\'' :: cs => .literal '\'' :: glyphs quoted cs
  | c :: cs => if c = '\'' then glyphs (!quoted) cs else glyphOf quoted c :: glyphs quoted cs

/-- Put a field letter in front of items: it widens a field of the same letter. -/
def consLetter (c : Char) : List Item → List Item
  | .field letter width :: items =>
    if c = letter then .field letter (width + 1) :: items
    else .field c 1 :: .field letter width :: items
  | items => .field c 1 :: items

/-- Collect the letters of every run of one field letter into a field. -/
def collect : List Glyph → List Item
  | [] => []
  | .literal c :: gs => .literal c :: collect gs
  | .letter c :: gs => consLetter c (collect gs)

/-- The items of a pattern text. -/
def items (s : String) : List Item := collect (glyphs false s.toList)

/-- The text of a field: its letter, as often as it is wide. -/
def fieldText (letter : Char) (width : Nat) : String := String.ofList (List.replicate width letter)

/-- The text of an item in a template: a field is named in parentheses after a percent sign, and a
literal percent sign is doubled. -/
def Item.template : Item → List Char
  | literal '%' => ['%', '%']
  | literal c => [c]
  | field letter width => '%' :: '(' :: List.replicate width letter ++ [')', 's']

end Pattern

/-- A date pattern, read into its items. -/
abbrev Pattern := List Pattern.Item

/-- A pattern as a template, in which a writer of texts finds its fields by name. -/
def Pattern.template (p : Pattern) : String := String.ofList (p.flatMap Item.template)

end WikiDates
