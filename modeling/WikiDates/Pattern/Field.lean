/-!
# Fields of a date pattern

A field is a letter, written a number of times: `MMMM` is the field `M` of width 4. Each letter
allows certain widths. The letters are those of the Unicode date field symbols, whatever a calendar
knows to do with them.
-/

namespace WikiDates.Pattern

/-- The widths that a field letter allows. -/
inductive Widths where
  /-- Every width. -/
  | any
  /-- The widths from 1 on, up to a greatest one. -/
  | upTo (greatest : Nat)
  /-- The listed widths only. -/
  | oneOf (widths : List Nat)
  deriving DecidableEq, Repr

/-- Whether a field may have width `n`. -/
def Widths.allow : Widths → Nat → Bool
  | any, _ => true
  | upTo greatest, n => 1 ≤ n && n ≤ greatest
  | oneOf widths, n => widths.contains n

/-- The widths of a field letter. A character without widths is no field letter. -/
def widths? : Char → Option Widths
  | 'y' | 'Y' | 'u' | 'g' | 'S' | 'A' => some .any
  | 'W' | 'F' => some (.upTo 1)
  | 'w' | 'd' | 'h' | 'H' | 'K' | 'k' | 'm' | 's' => some (.upTo 2)
  | 'D' => some (.upTo 3)
  | 'z' | 'V' => some (.upTo 4)
  | 'G' | 'Q' | 'q' | 'M' | 'L' | 'a' | 'b' | 'B' | 'Z' | 'x' | 'X' => some (.upTo 5)
  | 'E' | 'e' => some (.upTo 6)
  | 'c' => some (.oneOf [1, 3, 4, 5, 6])
  | 'O' | 'v' => some (.oneOf [1, 4])
  | _ => none

/-- Whether `c` is a field letter. -/
def isFieldLetter (c : Char) : Bool := (widths? c).isSome

/-- Whether the field with the given letter may have width `n`. -/
def allowsWidth (letter : Char) (n : Nat) : Bool := (widths? letter).any (·.allow n)

/-- The ASCII letters, in the order of their codes. -/
def asciiLetters : List Char :=
  "ABCDEFGHIJKLMNOPQRSTUVWXYZabcdefghijklmnopqrstuvwxyz".toList

end WikiDates.Pattern
