import WikiDates.Number.Binary64
import WikiDates.Number.Numeral

/-!
# Numbers in six significant digits

A signed whole number is shown in short form: it goes through the nearest double-precision number
and is then written with at most six significant digits. Below a million that is the number itself;
from there on it is a decimal fraction without trailing zeros, times a power of ten such as `e+09`.
-/

namespace WikiDates.Numeral

/-- Drop the zeros behind. -/
def dropTrailingZeros (digits : List Char) : List Char :=
  (digits.reverse.dropWhile (· == '0')).reverse

/-- `digits` as a decimal fraction: a point after the first digit, if others follow. -/
def pointed : List Char → List Char
  | d :: e :: rest => d :: '.' :: e :: rest
  | digits => digits

/-- A natural number in at most six significant digits. -/
def significant (n : Nat) : List Char :=
  if n < 1000000 then decimal n
  else
    let power := (decimal n).length - 1
    let rounded := roundToEven n (Nat.pow 10 (power - 5))
    let (rounded, power) :=
      if rounded = 1000000 then (100000, power + 1) else (rounded, power)
    pointed (dropTrailingZeros (decimal rounded)) ++ ['e', '+'] ++ padded 2 (decimal power)

/-- A whole number in at most six significant digits, always with its sign, unless its magnitude is
too large for a double-precision number. -/
def signedSignificant? (n : Int) : Option String :=
  (Binary64.ofNat? n.natAbs).map fun x =>
    String.ofList ((if n < 0 then '-' else '+') :: significant x.floor)

end WikiDates.Numeral
