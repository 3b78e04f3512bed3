import WikiDates.Text.CodeRange
import WikiDates.Text.DecimalDigit

/-!
# Digits

A digit is a decimal digit, or a character that stands for one without being part of a positional
system: a superscript, a subscript, a digit in a circle or in parentheses, or with a full stop or a
comma behind it. Fractions, letter numbers and signs for ten and more are no digits.
-/

namespace WikiDates.Text

/-- The runs of digits that are not decimal digits. -/
def otherDigitRuns : List (Nat × Nat) :=
  [(0xB2, 0xB3), (0xB9, 0xB9), (0x1369, 0x1371), (0x19DA, 0x19DA), (0x2070, 0x2070),
   (0x2074, 0x2079), (0x2080, 0x2089), (0x2460, 0x2468), (0x2474, 0x247C), (0x2488, 0x2490),
   (0x24EA, 0x24EA), (0x24F5, 0x24FD), (0x24FF, 0x24FF), (0x2776, 0x277E), (0x2780, 0x2788),
   (0x278A, 0x2792), (0x10A40, 0x10A43), (0x10E60, 0x10E68), (0x11052, 0x1105A), (0x1F100, 0x1F10A)]

/-- Whether `c` is a digit. -/
def isDigit (c : Char) : Bool := isDecimalDigit c || inRanges otherDigitRuns c

end WikiDates.Text
