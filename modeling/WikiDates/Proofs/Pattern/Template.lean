import WikiDates.Proofs.Pattern.Concatenation

/-!
# Filling in a template

    pattern ──parse──▶ items ──template──▶ template
                         └────format────▶ text ◀────┘ Fills

A pattern is handed on as a template, a text in which every percent sign is doubled and every field is
named in parentheses. `Template.Fills` says what a template is filled in with, for any way to write
the fields. It knows nothing of patterns: a character of the pattern that looks like the name of a
field would be taken for one.

`Pattern.fills_template_iff` says that this never happens, and `Instant.fills_template_iff_format`
that a pattern may be written item by item as well.
-/

namespace WikiDates

open Results

namespace Template

/-! ### Filling in -/

/-- A template is filled in with a text, or fails to be, where `write` gives the text of a field. -/
inductive Fills (write : Char → Nat → Except Failure (List Char)) :
    List Char → Except Failure (List Char) → Prop where
  | nil : Fills write [] (.ok [])
  /-- Two percent signs stand for one. -/
  | percent {cs : List Char} {r : Except Failure (List Char)} (hrest : Fills write cs r) :
      Fills write ('%' :: '%' :: cs) (r.map ('%' :: ·))
  /-- A percent sign and a name stand for a field. Fields are written from left to right, and the
  first that cannot be written ends the writing. -/
  | field {letter : Char} {width : Nat} {cs : List Char} {r : Except Failure (List Char)}
      (hletter : letter ≠ ')') (hwidth : 0 < width) (hrest : Fills write cs r) :
      Fills write ('%' :: '(' :: (List.replicate width letter ++ ')' :: 's' :: cs))
        (write letter width >>= fun text => r.map (text ++ ·))
  /-- Everything else is copied. -/
  | copied {c : Char} {cs : List Char} {r : Except Failure (List Char)} (hc : c ≠ '%')
      (hrest : Fills write cs r) : Fills write (c :: cs) (r.map (c :: ·))

variable {write : Char → Nat → Except Failure (List Char)}

theorem takeWhile_append_cons {a : List Char} {c : Char} (h : c ∉ a) (rest : List Char) :
    (a ++ c :: rest).takeWhile (· ≠ c) = a := by
  have hall : ∀ d ∈ a, decide (d ≠ c) = true :=
    fun d hd => decide_eq_true (ne_of_mem_of_not_mem hd h)
  rw [List.takeWhile_append_of_pos hall, List.takeWhile_cons_of_neg (by simp), List.append_nil]

/-- A text is cut in one way in front of the first `c`. -/
theorem append_cons_inj {a b x y : List Char} {c : Char} (ha : c ∉ a) (hb : c ∉ b)
    (h : a ++ c :: x = b ++ c :: y) : a = b ∧ x = y := by
  obtain rfl : a = b := by
    rw [← takeWhile_append_cons ha x, h, takeWhile_append_cons hb]
  exact ⟨rfl, List.tail_eq_of_cons_eq (List.append_cancel_left h)⟩

theorem not_mem_replicate {c d : Char} (h : d ≠ c) (n : Nat) : c ∉ List.replicate n d :=
  fun hmem => h (List.eq_of_mem_replicate hmem).symm

theorem Fills.of_field {letter : Char} {width : Nat} {cs : List Char}
    {r : Except Failure (List Char)}
    (h : Fills write ('%' :: '(' :: (List.replicate width letter ++ ')' :: 's' :: cs)) r)
    (hletter : letter ≠ ')') (hwidth : 0 < width) :
    ∃ rest, Fills write cs rest ∧ r = write letter width >>= fun text => rest.map (text ++ ·) := by
  generalize htext : '%' :: '(' :: (List.replicate width letter ++ ')' :: 's' :: cs) = text at h
  cases h with
  | nil => cases htext
  | percent => cases htext
  | copied hc =>
      cases htext
      exact absurd rfl hc
  | @field letter' width' cs' r' hletter' hwidth' hrest =>
      injection htext with _ htext
      injection htext with _ htext
      have hname := not_mem_replicate hletter width
      have hname' := not_mem_replicate hletter' width'
      obtain ⟨hsame, hcs⟩ := append_cons_inj hname hname' htext
      cases hcs
      obtain ⟨rfl, rfl | rfl⟩ := List.replicate_inj.mp hsame
      · exact absurd hwidth (Nat.lt_irrefl 0)
      · exact ⟨_, hrest, rfl⟩

/-- A template is filled in with one text. -/
theorem Fills.unique {cs : List Char} {r r' : Except Failure (List Char)} (h : Fills write cs r)
    (h' : Fills write cs r') : r' = r := by
  induction h generalizing r' with
  | nil =>
      cases h'
      rfl
  | percent _ ih =>
      cases h' with
      | percent hrest => rw [ih hrest]
      | copied hc => exact absurd rfl hc
  | field hletter hwidth _ ih =>
      obtain ⟨rest, hrest, rfl⟩ := h'.of_field hletter hwidth
      rw [ih hrest]
  | copied hc _ ih =>
      cases h' with
      | percent => exact absurd rfl hc
      | field => exact absurd rfl hc
      | copied _ hrest => rw [ih hrest]

end Template

/-! ### Templates of patterns -/

namespace Pattern

/-- The text of an item, where `write` gives the text of a field. -/
def Item.fill (write : Char → Nat → Except Failure (List Char)) : Item → Except Failure (List Char)
  | literal c => .ok [c]
  | field letter width => write letter width

/-- The texts of the items in a row. -/
def fill (write : Char → Nat → Except Failure (List Char)) (p : Pattern) :
    Except Failure (List Char) :=
  (p.mapM (Item.fill write)).map List.flatten

variable {write : Char → Nat → Except Failure (List Char)}

theorem fill_cons (i : Item) (p : Pattern) :
    fill write (i :: p) = i.fill write >>= fun text => (fill write p).map (text ++ ·) := by
  unfold fill
  rw [List.mapM_cons]
  cases i.fill write with
  | error failure => rfl
  | ok text =>
      cases p.mapM (Item.fill write) with
      | error failure => rfl
      | ok texts => rfl

theorem template_literal {c : Char} (hc : c ≠ '%') : (Item.literal c).template = [c] := by
  unfold Item.template
  split
  · next h => exact absurd (Item.literal.inj h) hc
  · next h => rw [Item.literal.inj h]
  · next h => cases h

theorem fills_template {p : Pattern}
    (hp : ∀ letter width, .field letter width ∈ p → letter ≠ ')' ∧ 0 < width) :
    Template.Fills write p.template.toList (p.fill write) := by
  unfold template
  rw [String.toList_ofList]
  induction p with
  | nil => exact .nil
  | cons i p ih =>
      have hrest := ih fun letter width hmem => hp letter width (List.mem_cons_of_mem i hmem)
      rw [fill_cons, List.flatMap_cons]
      cases i with
      | literal c =>
          by_cases hc : c = '%'
          · subst hc
            exact .percent hrest
          · rw [template_literal hc]
            exact .copied hc hrest
      | field letter width =>
          obtain ⟨hletter, hwidth⟩ := hp letter width List.mem_cons_self
          have htext (cs : List Char) : (Item.field letter width).template ++ cs =
              '%' :: '(' :: (List.replicate width letter ++ ')' :: 's' :: cs) := by
            simp [Item.template]
          rw [htext]
          exact .field hletter hwidth hrest

/-- A valid pattern is filled in item by item, and in no other way. -/
theorem fills_template_iff {s : String} {p : Pattern} (hp : parse s = .ok p)
    {r : Except Failure (List Char)} :
    Template.Fills write p.template.toList r ↔ r = p.fill write := by
  have hfills : Template.Fills write p.template.toList (p.fill write) := by
    obtain ⟨-, rfl⟩ := parse_eq_ok_iff.mp hp
    apply fills_template
    intro letter width hmem
    obtain ⟨hletter, hwidth⟩ := field_of_mem_items hmem
    refine ⟨?_, hwidth⟩
    rintro rfl
    exact absurd hletter (by decide)
  constructor
  · exact hfills.unique
  · rintro rfl
    exact hfills

end Pattern

/-! ### Writing with a template -/

/-- The characters of a field. -/
def Format.fieldChars (l : Locale) (x : Instant) (letter : Char) (width : Nat) :
    Except Failure (List Char) :=
  (field l x letter width).map String.toList

theorem Pattern.format_eq_fill (p : Pattern) (l : Locale) (x : Instant) :
    p.format l x = (p.fill (Format.fieldChars l x)).map String.ofList := by
  have hitem : Format.item l x = Item.fill (Format.fieldChars l x) := by
    funext i
    cases i with
    | literal c => rfl
    | field letter width => rfl
  unfold format fill
  rw [hitem]
  cases p.mapM (Item.fill (Format.fieldChars l x)) with
  | error failure => rfl
  | ok texts => rfl

/-- **A template loses nothing of its pattern.** What the template of a valid pattern is filled in
with, failures included, is what an instant is written as with the pattern. -/
theorem Instant.fills_template_iff_format {s locale : String} {p : Pattern} {l : Locale}
    (hp : Pattern.parse s = .ok p) (hl : Locale.parse locale = .ok l) (x : Instant)
    {r : Except Failure (List Char)} :
    Template.Fills (Format.fieldChars l x) p.template.toList r ↔
      r = (x.format s locale).map String.toList := by
  have hformat : (x.format s locale).map String.toList = p.fill (Format.fieldChars l x) := by
    rw [format_of_parse hp, hl]
    show (p.format l x).map String.toList = _
    rw [Pattern.format_eq_fill]
    cases p.fill (Format.fieldChars l x) with
    | error failure => rfl
    | ok chars => exact congrArg Except.ok String.toList_ofList
  rw [Pattern.fills_template_iff hp, hformat]

/-- A name in a quotation is text, and a percent sign in front of a field is no name. -/
example : (Pattern.parse "'%(d)s'%d").toOption.map Pattern.template = some "%%(d)s%%%(d)s" := by
  decide +kernel

end WikiDates
