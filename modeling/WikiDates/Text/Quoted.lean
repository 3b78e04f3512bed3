import WikiDates.Number.Numeral
import WikiDates.Text.Printable

/-!
# Quoted texts

A text is quoted in error messages and log records so that it can be read back from one line of
printable characters. The quote mark is an apostrophe, unless the text holds an apostrophe and no
double quote. The mark in use and the backslash are written after a backslash, and so are the three
common control characters by a letter; any other unprintable character is written by its code point
in two, four or eight hexadecimal digits.
-/

namespace WikiDates.Text

/-- The quote mark for a text: an apostrophe where that needs no more escapes than a double quote.
-/
def quoteMark (cs : List Char) : Char :=
  if cs.contains '\'' && !cs.contains '"' then '"' else '\''

/-- One character of a quoted text, when `mark` is the quote mark. -/
def escaped (mark c : Char) : List Char :=
  if c == mark || c == '\\' then ['\\', c]
  else if c == '\t' then ['\\', 't']
  else if c == '\n' then ['\\', 'n']
  else if c == '\r' then ['\\', 'r']
  else if isPrintable c then [c]
  else if c.toNat < 0x100 then '\\' :: 'x' :: Numeral.hexadecimal 2 c.toNat
  else if c.toNat < 0x10000 then '\\' :: 'u' :: Numeral.hexadecimal 4 c.toNat
  else '\\' :: 'U' :: Numeral.hexadecimal 8 c.toNat

/-- The characters of a text in quotes. -/
def quotedChars (cs : List Char) : List Char :=
  let mark := quoteMark cs
  mark :: cs.flatMap (escaped mark) ++ [mark]

/-- A text in quotes. -/
def quoted (s : String) : String := String.ofList (quotedChars s.toList)

/-- A single character in quotes. -/
def quotedChar (c : Char) : String := String.ofList (quotedChars [c])

end WikiDates.Text
