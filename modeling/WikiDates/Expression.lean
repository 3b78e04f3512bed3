import WikiDates.Number.Numeral
import WikiDates.Text.DecimalDigit
import WikiDates.Text.Quoted
import WikiDates.TimeUnit

/-!
# Time expressions

    text ──parse──▶ Expression ──chars──▶ text

A time expression is a run of amounts, each a number followed by the letter of its unit, such as
`2012y5M`. Digits of any script may be mixed; a letter without digits in front counts as zero, and
digits after the last letter are dropped. Printing gives the canonical form: ASCII digits, no
leading zeros, every zero written.
-/

namespace WikiDates

/-- A number of units, such as `5M`. -/
structure Assignment where
  /-- The unit that is counted. -/
  unit : TimeUnit
  /-- How many of it. -/
  magnitude : Nat
  deriving DecidableEq, Repr

/-- A time expression: its amounts, in the order in which they are written. -/
abbrev Expression := List Assignment

/-- A text that stands where the letter of a unit was expected, with the expression it was found in,
if it was found in one. -/
structure UnknownUnit where
  /-- The offending text: a single character when it was found in an expression. -/
  letter : String
  /-- The whole expression. -/
  expression : Option String := none
  deriving DecidableEq, Repr

/-- The report of an unknown unit. -/
def UnknownUnit.message (e : UnknownUnit) : String :=
  Text.quoted e.letter ++ " is not a valid time field" ++
    match e.expression with
    | some whole => " in expression " ++ Text.quoted whole
    | none => ""

/-- The unit whose letter is the whole of `s`. -/
def TimeUnit.read (s : String) (expression : Option String) : Except UnknownUnit TimeUnit :=
  match s.toList with
  | [c] => (TimeUnit.ofLetter? c).elim (throw ⟨s, expression⟩) pure
  | _ => throw ⟨s, expression⟩

namespace Expression

/-! ### Reading -/

/-- Read the amounts of an expression, where `magnitude` is the value of the digits read since the
last letter. The error is the first character that is neither a digit nor the letter of a unit. -/
def scan (magnitude : Nat) : List Char → Except Char Expression
  | [] => .ok []
  | c :: cs =>
    match Text.digitValue? c with
    | some d => scan (magnitude * 10 + d) cs
    | none =>
      match TimeUnit.ofLetter? c with
      | some u => (scan 0 cs).map (⟨u, magnitude⟩ :: ·)
      | none => .error c

/-- Read an expression. -/
def parse (s : String) : Except UnknownUnit Expression :=
  (scan 0 s.toList).mapError fun c => ⟨String.singleton c, some s⟩

end Expression

/-! ### Printing -/

/-- The canonical text of an amount: its number, then the letter of its unit. -/
def Assignment.chars (a : Assignment) : List Char :=
  Numeral.decimal a.magnitude ++ [a.unit.letter]

namespace Expression

/-- The canonical text of an expression. -/
def chars (e : Expression) : List Char := e.flatMap Assignment.chars

/-- Whether every number of the expression may be written out. -/
def isWritable (e : Expression) : Bool := e.all fun a => Numeral.isWritable a.magnitude

/-- The canonical text of an expression, unless a number of it is too long to be written out. -/
def print? (e : Expression) : Option String :=
  if e.isWritable then some (String.ofList e.chars) else none

end Expression

/-- An expression with a sign: amounts to add to an instant, or to take from it. -/
structure Offset where
  /-- The factor for every amount; an option text gives 1 or -1. -/
  sign : Int
  /-- The amounts. -/
  assignments : Expression
  deriving DecidableEq, Repr

/-- The canonical text of an offset: a sign, then the expression. -/
def Offset.chars (o : Offset) : List Char :=
  (if 0 < o.sign then '+' else '-') :: o.assignments.chars

/-- The canonical text of an offset, unless a number of it is too long to be written out. -/
def Offset.print? (o : Offset) : Option String :=
  if o.assignments.isWritable then some (String.ofList o.chars) else none

end WikiDates
