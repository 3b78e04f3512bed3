/-!
# Blank characters

Two sets are told apart. A *separator* ends a piece of an option text; a *blank* may be trimmed from
both ends of it. Every separator is a blank, and the blanks that are no separators are the four
information separators U+001C to U+001F: they are trimmed, but they do not split.
-/

namespace WikiDates.Text

/-- Whether `c` separates the pieces of an option text. -/
def isSeparator (c : Char) : Bool :=
  let n := c.toNat
  (0x09 ≤ n && n ≤ 0x0D) || n == 0x20 || n == 0x85 || n == 0xA0 || n == 0x1680 ||
    (0x2000 ≤ n && n ≤ 0x200A) || n == 0x2028 || n == 0x2029 || n == 0x202F || n == 0x205F ||
    n == 0x3000

/-- Whether `c` may be trimmed from the ends of a text. -/
def isBlank (c : Char) : Bool :=
  isSeparator c || (0x1C ≤ c.toNat && c.toNat ≤ 0x1F)

/-- Drop the blanks in front. -/
def trimFront (cs : List Char) : List Char := cs.dropWhile isBlank

/-- Drop the blanks behind. -/
def trimBack (cs : List Char) : List Char := (cs.reverse.dropWhile isBlank).reverse

/-- Drop the blanks at both ends. -/
def trim (cs : List Char) : List Char := trimBack (trimFront cs)

end WikiDates.Text
