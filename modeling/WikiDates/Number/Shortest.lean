import WikiDates.Number.Significant

/-!
# The shortest decimal of a double-precision number

A number is written with the fewest decimal digits that read back as the same number; of two such
decimals the nearer one is taken. Magnitudes from 0.0001 up to 10^16 are written positionally and
always with a point, others with a power of ten such as `e-05` or `e+16`.
-/

namespace WikiDates.Numeral

/-- The power of ten of the leading digit of `p / q`. -/
def leadingPower (p q : Nat) : Int :=
  let guess : Int := ((decimal p).length : Int) - (decimal q).length
  if p * Nat.pow 10 (-guess).toNat < q * Nat.pow 10 guess.toNat then guess - 1 else guess

/-- The double-precision number nearest to `digits * 10 ^ power`. -/
def ofDecimal? (digits : Nat) (power : Int) : Option Binary64 :=
  Binary64.ofRatio? (digits * Nat.pow 10 power.toNat) (Nat.pow 10 (-power).toNat)

/-- The decimal of `count` digits nearest to `x` that reads back as `x`, as its digits and the power
of ten of the last one. Only the two neighbours of `x` among such decimals need to be tried. -/
def digitsOfLength? (x : Binary64) (count : Nat) : Option (Nat × Int) :=
  let power := leadingPower x.numerator x.denominator - count + 1
  let p := x.numerator * Nat.pow 10 (-power).toNat
  let q := x.denominator * Nat.pow 10 power.toNat
  let below := p / q
  let nearer := roundToEven p q
  let farther := if nearer = below then below + 1 else below
  [nearer, farther].findSome? fun digits =>
    if ofDecimal? digits power = some x then some (digits, power) else none

/-- The shortest decimal that reads back as `x`: its digits and the power of ten of the last one.
Seventeen digits always suffice. -/
def shortestDigits (x : Binary64) : Nat × Int :=
  ((List.range' 1 17).findSome? (digitsOfLength? x)).getD (0, 0)

/-- Place a point `places` digits from the front of a decimal fraction. -/
def positional (digits : List Char) (places : Int) : List Char :=
  let digits := List.replicate (1 - places).toNat '0' ++ digits
  let places := max 1 places.toNat
  let digits := digits ++ List.replicate (places - digits.length) '0'
  let fraction := digits.drop places
  digits.take places ++ '.' :: (if fraction.isEmpty then ['0'] else fraction)

/-- The shortest decimal of a number. -/
def shortest (x : Binary64) : List Char :=
  if x.significand = 0 then ['0', '.', '0']
  else
    let (digits, power) := shortestDigits x
    let leading := power + (decimal digits).length - 1
    let digits := dropTrailingZeros (decimal digits)
    if -4 ≤ leading ∧ leading < 16 then positional digits (leading + 1)
    else
      pointed digits ++ 'e' :: (if leading < 0 then '-' else '+') ::
        padded 2 (decimal leading.natAbs)

end WikiDates.Numeral
