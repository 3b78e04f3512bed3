/-!
# Numerals

Decimal and hexadecimal numerals of natural numbers as lists of characters, with zeros in front up
to a given width. A width never cuts digits off.

Numbers of more than `digitLimit` digits are never written out: whoever prints a number of unbounded
size asks `isWritable` first.
-/

namespace WikiDates.Numeral

/-- The decimal numeral of `n`, without leading zeros. -/
def decimal (n : Nat) : List Char := Nat.toDigits 10 n

/-- Put zeros in front of `digits` until they are `width` characters. -/
def padded (width : Nat) (digits : List Char) : List Char :=
  List.replicate (width - digits.length) '0' ++ digits

/-- The decimal numeral of `n` with at least `width` digits. -/
def zeroPadded (width n : Nat) : String := String.ofList (padded width (decimal n))

/-- The lower-case hexadecimal numeral of `n` with at least `width` digits. -/
def hexadecimal (width n : Nat) : List Char := padded width (Nat.toDigits 16 n)

theorem length_padded (width : Nat) (digits : List Char) :
    (padded width digits).length = max width digits.length := by
  simp [padded]
  omega

/-- The most digits that a number may be written out with. -/
def digitLimit : Nat := 4300

/-- Whether `n` has at most `digitLimit` digits. -/
def isWritable (n : Nat) : Bool := n < Nat.pow 10 digitLimit

end WikiDates.Numeral
