import WikiDates.Text.Casing
import WikiDates.Text.Letter
import WikiDates.Text.Digit
import WikiDates.Text.Quoted

/-!
# Locale identifiers

    language[_Script][_TERRITORY][_VARIANT][.encoding][@modifier]

An identifier names a language and optionally a script of four letters, a territory of two letters
or three digits, a variant and a modifier; an encoding is skipped. Case does not matter in what is
read, and the canonical text writes the language in lower case, the script in title case, and the
territory and the variant in upper case.
-/

namespace WikiDates.Locale

/-- The parts of an identifier, in canonical case. -/
structure Identifier where
  /-- The language. -/
  language : List Char
  /-- The script. -/
  script : Option (List Char) := none
  /-- The territory. -/
  territory : Option (List Char) := none
  /-- The variant. -/
  variant : Option (List Char) := none
  /-- What stands after the first `@`, if that is not empty. -/
  modifier : Option (List Char) := none
  deriving DecidableEq, Repr

/-- The canonical text of an identifier without its modifier. -/
def Identifier.core (i : Identifier) : String :=
  let parts := [some i.language, i.script, i.territory, i.variant].filterMap id
  "_".intercalate (parts.map String.ofList)

/-- The canonical text of an identifier. -/
def Identifier.toText (i : Identifier) : String :=
  i.core ++
    match i.modifier with
    | some m => "@" ++ String.ofList m
    | none => ""

/-- Why a value does not name a locale. -/
inductive Fault where
  /-- It is an empty text. -/
  | empty
  /-- It is void without being a text; the argument is the value as it is shown. -/
  | void (shown : String)
  /-- It is no text; the argument is the value as it is shown. -/
  | notText (shown : String)
  /-- It starts with something else than a language. -/
  | notLetters (language : String)
  /-- Some of its parts are not understood. -/
  | notIdentifier (text : String)
  /-- It is an identifier, but there is no such locale. -/
  | unknown (identifier : String)
  deriving DecidableEq, Repr

/-- The report of a value that is empty. -/
def emptyMessage (shown : String) : String :=
  "Empty locale identifier value: " ++ shown ++
    "\n\nIf you didn't explicitly pass an empty value to a Babel function, this could be " ++
    "caused by there being no suitable locale environment variables for the API you tried to use."

/-- The report of a fault. -/
def Fault.message : Fault → String
  | empty => emptyMessage "''"
  | void shown => emptyMessage shown
  | notText shown => "Unexpected value for identifier: " ++ shown
  | notLetters language => "expected only letters, got " ++ Text.quoted language
  | notIdentifier text => Text.quoted text ++ " is not a valid locale identifier"
  | unknown identifier => "unknown locale " ++ Text.quoted identifier

/-- Cut a text at every occurrence of `mark`. There is always a first part. -/
def cutAt (mark : Char) : List Char → List Char × List (List Char)
  | [] => ([], [])
  | c :: cs =>
    let (first, others) := cutAt mark cs
    if c = mark then ([], first :: others) else (c :: first, others)

/-- Whether a part has `length` characters that are all letters. -/
def isWord (length : Nat) (part : List Char) : Bool :=
  part.length == length && part.all Text.isLetter

/-- Whether a part names a territory. -/
def isTerritory (part : List Char) : Bool :=
  isWord 2 part || (part.length == 3 && part.all Text.isDigit)

/-- Whether a part may start a variant. -/
def startsVariant : List Char → Bool
  | [] => false
  | c :: cs =>
    (cs.length == 3 && Text.isDigit c) || (4 ≤ cs.length && Text.isLetter c)

/-- Take the first part off if it is as asked for. -/
def takePart (p : List Char → Bool) : List (List Char) → Option (List Char) × List (List Char)
  | [] => (none, [])
  | part :: parts => if p part then (some part, parts) else (none, part :: parts)

/-- Take the last part off if the first one may start a variant. -/
def takeVariant (parts : List (List Char)) : Option (List Char) × List (List Char) :=
  if parts.head?.any startsVariant then (parts.getLast?, parts.dropLast) else (none, parts)

/-- Read an identifier. -/
def Identifier.parse (s : String) : Except Fault Identifier :=
  if s = "" then .error .empty
  else
    let beforeModifier := s.toList.takeWhile (· != '@')
    let modifier := (s.toList.dropWhile (· != '@')).drop 1
    let text := beforeModifier.takeWhile (· != '.')
    let (first, parts) := cutAt '_' text
    let language := Text.lowerCase first
    if language.isEmpty || !language.all Text.isLetter then
      .error (.notLetters (String.ofList language))
    else
      let (script, parts) := takePart (isWord 4) parts
      let (territory, parts) := takePart isTerritory parts
      let (variant, parts) := takeVariant parts
      if parts.isEmpty then
        .ok
          { language
            script := script.map Text.titleCase
            territory := territory.map Text.upperCase
            variant := variant.map Text.upperCase
            modifier := if modifier.isEmpty then none else some modifier }
      else .error (.notIdentifier (String.ofList text))

end WikiDates.Locale
