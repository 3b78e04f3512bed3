import WikiDates.Anchor
import WikiDates.Text.WordChar

/-!
# Markers in a page

    page ──segments──▶ characters and markers

A marker is an exclamation mark and the name of an anchor, where no word character follows the name.
It may be followed at once by a block in parentheses, which holds its options: the block ends at the
first closing parenthesis, and there is no block if the line ends before one. A page is read from
the left; what belongs to a marker is not read again.
-/

namespace WikiDates

/-- A marker in a page. -/
structure Marker where
  /-- The anchor that it names. -/
  anchor : Anchor
  /-- The text of its block, if it has one. -/
  options : Option (List Char)
  deriving DecidableEq, Repr

namespace Marker

/-- The characters of an exclamation mark and the name of an anchor. -/
def head (a : Anchor) : List Char := '!' :: a.name.toList

/-- The characters of a block. -/
def block (options : List Char) : List Char := '(' :: options ++ [')']

/-- The characters of a marker. -/
def chars (m : Marker) : List Char := head m.anchor ++ m.options.elim [] block

/-- The text of a marker. -/
def toText (m : Marker) : String := String.ofList m.chars

/-- Whether a name may end in front of `cs`. -/
def endsName (cs : List Char) : Bool := !cs.head?.any Text.isWordChar

/-- The text up to the next closing parenthesis on the line, and what follows it. -/
def untilClosing? : List Char → Option (List Char × List Char)
  | [] => none
  | c :: cs =>
    if c = ')' then some ([], cs)
    else if c = '\n' then none
    else (untilClosing? cs).map fun (inside, rest) => (c :: inside, rest)

/-- The block at the front of `cs`, and what follows it. -/
def readBlock? : List Char → Option (List Char × List Char)
  | '(' :: cs => untilClosing? cs
  | _ => none

/-- What remains behind the name of `a` at the front of `cs`. -/
def readHead? (cs : List Char) (a : Anchor) : Option (Anchor × List Char) :=
  ((head a).isPrefixOf? cs).bind fun rest => if endsName rest then some (a, rest) else none

/-- The marker at the front of `cs`, and what follows it. -/
def read? (cs : List Char) : Option (Marker × List Char) :=
  (Anchor.all.findSome? (readHead? cs)).map fun (a, rest) =>
    match readBlock? rest with
    | some (options, rest) => (⟨a, some options⟩, rest)
    | none => (⟨a, none⟩, rest)

/-! ### What reading takes away -/

theorem eq_append_of_isPrefixOf? {lead cs rest : List Char}
    (h : lead.isPrefixOf? cs = some rest) : cs = lead ++ rest := by
  induction lead generalizing cs with
  | nil =>
    cases h
    rfl
  | cons a lead ih =>
    cases cs with
    | nil => cases h
    | cons c cs =>
      change (if a == c then lead.isPrefixOf? cs else none) = some rest at h
      split at h
      · next same => simp [eq_of_beq same, ih h]
      · exact absurd h (by simp)

theorem untilClosing?_eq_some {cs inside rest : List Char}
    (h : untilClosing? cs = some (inside, rest)) : cs = inside ++ ')' :: rest := by
  induction cs generalizing inside with
  | nil => simp [untilClosing?] at h
  | cons c cs ih =>
    simp only [untilClosing?] at h
    split at h
    · next closing => simp_all
    · split at h
      · exact absurd h (by simp)
      · obtain ⟨⟨inside', rest'⟩, found, same⟩ := Option.map_eq_some_iff.1 h
        cases same
        simp [ih found]

theorem readBlock?_eq_some {cs options rest : List Char}
    (h : readBlock? cs = some (options, rest)) : cs = block options ++ rest := by
  unfold readBlock? at h
  split at h
  · simp [block, untilClosing?_eq_some h]
  · exact absurd h (by simp)

theorem readHead?_eq_some {cs rest : List Char} {a b : Anchor}
    (h : readHead? cs a = some (b, rest)) : a = b ∧ cs = head a ++ rest := by
  obtain ⟨rest', found, kept⟩ := Option.bind_eq_some_iff.1 h
  split at kept
  · cases kept
    exact ⟨rfl, eq_append_of_isPrefixOf? found⟩
  · exact absurd kept (by simp)

/-- Reading a marker takes exactly its characters from the front. -/
theorem read?_eq_some {cs rest : List Char} {m : Marker} (h : read? cs = some (m, rest)) :
    cs = m.chars ++ rest := by
  obtain ⟨⟨a, rest'⟩, found, made⟩ := Option.map_eq_some_iff.1 h
  obtain ⟨b, -, named⟩ := List.exists_of_findSome?_eq_some found
  obtain ⟨rfl, rfl⟩ := readHead?_eq_some named
  dsimp only at made
  split at made
  · next options rest'' inBlock =>
    cases made
    simp [chars, readBlock?_eq_some inBlock]
  · cases made
    simp [chars]

theorem length_lt_of_read? {cs rest : List Char} {m : Marker} (h : read? cs = some (m, rest)) :
    rest.length < cs.length := by
  have := congrArg List.length (read?_eq_some h)
  simp only [chars, head, List.length_append, List.length_cons] at this
  omega

end Marker

/-- A part of a page. -/
inductive Segment where
  /-- A character outside all markers. -/
  | plain (c : Char)
  /-- A marker. -/
  | marker (m : Marker)
  deriving DecidableEq, Repr

namespace Segment

/-- The characters of a part of a page. -/
def chars : Segment → List Char
  | plain c => [c]
  | marker m => m.chars

/-- The parts of a page, in order. -/
def ofChars (cs : List Char) : List Segment :=
  match _h : Marker.read? cs with
  | some (m, rest) => marker m :: ofChars rest
  | none =>
    match cs with
    | [] => []
    | c :: rest => plain c :: ofChars rest
termination_by cs.length
decreasing_by
  · exact Marker.length_lt_of_read? _h
  · simp

/-- The markers among parts of a page that starts at position `start`, each with the positions of
its first character and behind its last. -/
def located (start : Nat) : List Segment → List (Marker × Nat × Nat)
  | [] => []
  | plain _ :: rest => located (start + 1) rest
  | marker m :: rest =>
    (m, start, start + m.chars.length) :: located (start + m.chars.length) rest

end Segment

/-- The markers of a page, each with the positions of its first character and behind its last. -/
def Marker.find (page : String) : List (Marker × Nat × Nat) :=
  Segment.located 0 (Segment.ofChars page.toList)

end WikiDates
