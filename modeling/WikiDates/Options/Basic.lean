import WikiDates.Adjustment
import WikiDates.Options.Tokens

/-!
# Options of a marker

    option text ──tokenize──▶ tokens ──readToken──▶ Option ──set──▶ Options

An option is exactly `-t`, which shows the time; or starts with `-f`, an explicit format; or starts
otherwise with a sign, an offset; or is anything else, an override. Options may come in any order,
and of several options of one kind the last is used. All of them are read, so a faulty option fails
even if a later one would replace it.
-/

namespace WikiDates

/-- What the options of a marker ask for. -/
structure Options where
  /-- Whether the time is shown. -/
  showTime : Bool := false
  /-- The explicit format. -/
  format : Option String := none
  /-- The amounts to add. -/
  offset : Option Offset := none
  /-- The units to set. -/
  override : Option Expression := none
  deriving DecidableEq, Repr

/-- Write an expression. A number of too many digits cannot be written out. -/
def Expression.print (e : Expression) : Except Failure String :=
  match e.print? with
  | some text => .ok text
  | none => .error .tooManyDigits

/-- Write an offset: its sign, then its amounts. -/
def Offset.print (o : Offset) : Except Failure String :=
  o.assignments.print.map fun text => (if 0 < o.sign then "+" else "-") ++ text

namespace Options

/-- A single option. -/
inductive Entry where
  /-- Show the time. -/
  | time
  /-- Use this format. -/
  | format (pattern : String)
  /-- Add these amounts. -/
  | offset (o : Offset)
  /-- Set these units. -/
  | override (e : Expression)
  deriving DecidableEq, Repr

/-- Drop a double quote at each end, if there are two. -/
def unquoted (cs : List Char) : List Char :=
  match cs with
  | '"' :: rest => if rest.getLast? = some '"' then rest.dropLast else cs
  | _ => cs

/-- Read an expression as part of an option. -/
def readExpression (cs : List Char) : Except Failure Expression :=
  (Expression.parse (String.ofList cs)).mapError .unknownUnit

/-- Read an explicit format, which has to be a date pattern. -/
def readFormat (cs : List Char) : Except Failure String :=
  let pattern := String.ofList (unquoted cs)
  match Pattern.parse pattern with
  | .ok _ => .ok pattern
  | .error fault => .error (.invalidPattern pattern fault)

/-- Read a token as an option. -/
def readToken (token : List Char) : Except Failure Entry :=
  match token with
  | ['-', 't'] => .ok .time
  | '-' :: 'f' :: rest => (readFormat rest).map .format
  | '-' :: rest => (readExpression rest).map fun e => .offset ⟨-1, e⟩
  | '+' :: rest => (readExpression rest).map fun e => .offset ⟨1, e⟩
  | _ => (readExpression token).map .override

/-- Let an option replace an earlier one of its kind. -/
def set (o : Options) : Entry → Options
  | .time => { o with showTime := true }
  | .format pattern => { o with format := some pattern }
  | .offset offset => { o with offset := some offset }
  | .override e => { o with override := some e }

/-- Read tokens as options, from the left. -/
def ofTokens (tokens : List String) : Except Failure Options :=
  tokens.foldlM (fun o token => (readToken token.toList).map o.set) {}

/-- Read an option text. A marker without an option text has the default options. -/
def parse (text : Option String) : Except Failure Options := ofTokens (tokenize text)

/-- The instant that the options lead to: units are set before amounts are added, whatever the order
of the options. -/
def apply (o : Options) (x : Instant) : Except Failure Instant := do
  let y ← match o.override with
    | some e => x.override e
    | none => pure x
  match o.offset with
  | some offset => y.offset offset.assignments offset.sign
  | none => pure y

end Options
end WikiDates
