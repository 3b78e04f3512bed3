import WikiDates.Text.Blank

/-!
# Tokens of an option text

    text ──trim──▶ text ──pieces──▶ runs without separators ──mend──▶ tokens

An option text is cut at separators. An explicit format that holds a space, such as
`-f"yy/MM/dd hh:mm"`, falls into two pieces by that; so a piece that holds a double quote is joined
again with the piece behind it, by one space. Only one piece is joined, and a double quote in the
last piece is left alone.
-/

namespace WikiDates.Options

/-- Whether a run without separators starts at the front of `cs`. -/
def startsRun (cs : List Char) : Bool := cs.head?.any (!Text.isSeparator ·)

/-- The maximal runs without separators, in order. -/
def pieces : List Char → List (List Char)
  | [] => []
  | c :: cs =>
    if Text.isSeparator c then pieces cs
    else
      match startsRun cs, pieces cs with
      | true, p :: ps => (c :: p) :: ps
      | _, ps => [c] :: ps

/-- Join every piece that holds a double quote with the piece behind it. -/
def mend : List (List Char) → List (List Char)
  | p :: q :: rest =>
    if p.contains '"' then (p ++ ' ' :: q) :: mend rest else p :: mend (q :: rest)
  | rest => rest

/-- The tokens of an option text, as lists of characters. -/
def tokenChars (cs : List Char) : List (List Char) := mend (pieces (Text.trim cs))

/-- The tokens of an option text. A marker without an option text has none. -/
def tokenize : Option String → List String
  | none => []
  | some s => (tokenChars s.toList).map String.ofList

/-! ### How pieces are cut -/

theorem pieces_cons_separator {c : Char} (h : Text.isSeparator c = true) (cs : List Char) :
    pieces (c :: cs) = pieces cs := by
  simp [pieces, h]

/-- Where a run starts, there is a piece. -/
theorem pieces_ne_nil {cs : List Char} (h : startsRun cs = true) : pieces cs ≠ [] := by
  cases cs with
  | nil => simp [startsRun] at h
  | cons c cs =>
    have hc : Text.isSeparator c = false := by simpa [startsRun] using h
    rw [pieces, if_neg (by simp [hc])]
    split <;> simp

/-- A separator cuts: what is in front of it and what is behind it are cut on their own. -/
theorem pieces_append_separator {c : Char} (h : Text.isSeparator c = true) (a b : List Char) :
    pieces (a ++ c :: b) = pieces a ++ pieces b := by
  induction a with
  | nil => exact pieces_cons_separator h b
  | cons d a ih =>
    have start : startsRun (a ++ c :: b) = startsRun a := by
      cases a <;> simp [startsRun, h]
    simp only [List.cons_append, pieces, start, ih]
    split
    · rfl
    · cases run : startsRun a with
      | false => simp
      | true =>
        obtain ⟨p, ps, found⟩ := List.exists_cons_of_ne_nil (pieces_ne_nil run)
        simp [found]

end WikiDates.Options
