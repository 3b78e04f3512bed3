/-!
# Double-precision numbers, exactly

A nonnegative double-precision number is a significand of at most 53 bits times a power of two. All
of its arithmetic here is exact arithmetic on ratios of natural numbers, followed by one rounding:
`ofRatio?` is the nearest such number to a ratio, where a tie goes to the even significand, and
there is none if the ratio is too large.
-/

namespace WikiDates

/-- The natural number nearest to `p / q`; a tie goes to the even neighbour. -/
def roundToEven (p q : Nat) : Nat :=
  let whole := p / q
  let rest := p % q
  if 2 * rest < q then whole
  else if q < 2 * rest then whole + 1
  else whole + whole % 2

/-- A nonnegative double-precision number, `significand * 2 ^ exponent`. -/
structure Binary64 where
  /-- The significand, below `2 ^ 53`. -/
  significand : Nat
  /-- The exponent of two, from -1074 to 971. -/
  exponent : Int
  deriving DecidableEq, Repr

namespace Binary64

/-- The numerator of the number as a ratio. -/
def numerator (x : Binary64) : Nat := x.significand * Nat.pow 2 x.exponent.toNat

/-- The denominator of the number as a ratio. -/
def denominator (x : Binary64) : Nat := Nat.pow 2 (-x.exponent).toNat

/-- The exponent that gives `p / q` a significand of 53 bits, unless that is below the least
exponent. -/
def exponentFor (p q : Nat) : Int :=
  let guess : Int := (p.log2 : Int) - q.log2 - 52
  let scaledUp := p * Nat.pow 2 (-guess).toNat
  let bound := q * Nat.pow 2 guess.toNat * Nat.pow 2 52
  max (-1074) (if scaledUp < bound then guess - 1 else guess)

/-- The number nearest to `p / q`, unless `p / q` is too large. -/
def ofRatio? (p q : Nat) : Option Binary64 :=
  let exponent := exponentFor p q
  let significand :=
    roundToEven (p * Nat.pow 2 (-exponent).toNat) (q * Nat.pow 2 exponent.toNat)
  let x : Binary64 :=
    if significand = Nat.pow 2 53 then ⟨Nat.pow 2 52, exponent + 1⟩ else ⟨significand, exponent⟩
  if x.exponent ≤ 971 then some x else none

/-- The least natural number that has no nearest double-precision number: the midpoint above the
largest one. -/
def limit : Nat := (Nat.pow 2 54 - 1) * Nat.pow 2 970

/-- The number nearest to a natural number, unless that is too large. -/
def ofNat? (n : Nat) : Option Binary64 := ofRatio? n 1

/-- The number nearest to the product of two numbers. -/
def mul? (x y : Binary64) : Option Binary64 :=
  ofRatio? (x.numerator * y.numerator) (x.denominator * y.denominator)

/-- The largest natural number that is not above the number. -/
def floor (x : Binary64) : Nat := x.numerator / x.denominator

/-- The number nearest to `x` rounded to `places` decimal places; a tie goes to the even last place.
-/
def roundedTo? (places : Nat) (x : Binary64) : Option Binary64 :=
  ofRatio? (roundToEven (x.numerator * Nat.pow 10 places) x.denominator) (Nat.pow 10 places)

end Binary64
end WikiDates
