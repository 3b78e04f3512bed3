import WikiDates.Format
import WikiDates.Proofs.Pattern.Validity
import WikiDates.Proofs.Results

/-!
# Patterns in a row

    pattern, pattern ──▶ text, text

A valid pattern closes every quotation that it opens, so it ends where it starts, outside quotations.
A second pattern behind it is therefore read as it is read alone, unless the two run into each other
at the cut: the last character of the first comes again, and makes a pair of apostrophes or a wider
field (`KeepsApart`).

`Instant.patterns_in_a_row_are_written_in_a_row` says that two valid patterns that are kept apart are
a valid pattern, and that an instant is written with it as with the first and then with the second.
-/

namespace WikiDates

open Results

namespace Pattern

/-! ### Validity -/

theorem InGrammar.quotedAfter_eq {cs : List Char} (h : InGrammar cs) :
    quotedAfter false cs = false := by
  rw [← Bool.not_eq_true, quotedAfter_eq_true_iff, Nat.not_odd_iff_even]
  exact h.closed

/-- Behind a text that ends outside quotations, a character stands as it stands in its own text. -/
theorem StandsOutside.of_append {a b : List Char} {c : Char} (h : StandsOutside (a ++ b) c)
    (ha : quotedAfter false a = false) : StandsOutside a c ∨ StandsOutside b c := by
  obtain ⟨before, after, hsplit, hbefore⟩ := h
  rcases List.append_eq_append_iff.mp hsplit with ⟨x, rfl, hb⟩ | ⟨x, hx, hrest⟩
  · rw [quotedAfter_append, ha] at hbefore
    exact Or.inr ⟨x, after, hb, hbefore⟩
  · cases x with
    | nil => exact Or.inr ⟨[], after, hrest.symm, rfl⟩
    | cons d x =>
        cases hrest
        exact Or.inl ⟨before, x, hx, hbefore⟩

variable {a b : List Char} (ha : InGrammar a) (hb : InGrammar b) (hcut : KeepsApart a b)

include ha hcut

theorem InGrammar.collect_append :
    collect (glyphs false (a ++ b)) = collect (glyphs false a) ++ collect (glyphs false b) := by
  apply Spells.collect_eq
  apply Spells.append (spells_iff.mpr rfl) _ hcut
  rw [ha.quotedAfter_eq]
  exact spells_iff.mpr rfl

include hb

/-- Two valid patterns that are kept apart make a valid pattern. -/
theorem InGrammar.append : InGrammar (a ++ b) where
  closed := by
    rw [List.count_append]
    exact ha.closed.add hb.closed
  known := by
    intro c hc hstands
    rcases hstands.of_append ha.quotedAfter_eq with hstands | hstands
    · exact ha.known c hc hstands
    · exact hb.known c hc hstands
  allowed := by
    have hallowed := badField?_eq_none_iff.mp (badField?_collect_eq_none_iff.mpr ha.allowed)
    have hallowed' := badField?_eq_none_iff.mp (badField?_collect_eq_none_iff.mpr hb.allowed)
    rw [← badField?_collect_eq_none_iff, ha.collect_append hcut, badField?_eq_none_iff]
    intro c n hmem
    rcases List.mem_append.mp hmem with hmem | hmem
    · exact hallowed c n hmem
    · exact hallowed' c n hmem

omit ha hb hcut

theorem parse_append {s t : String} {p q : Pattern} (hp : parse s = .ok p) (hq : parse t = .ok q)
    (hcut : KeepsApart s.toList t.toList) : parse (s ++ t) = .ok (p ++ q) := by
  obtain ⟨hs, rfl⟩ := parse_eq_ok_iff.mp hp
  obtain ⟨ht, rfl⟩ := parse_eq_ok_iff.mp hq
  rw [parse_eq_ok_iff, items, String.toList_append]
  exact ⟨hs.append ht hcut, hs.collect_append hcut⟩

/-! ### Writing -/

/-- Items are written one after the other, and the first failure among them ends the writing. -/
theorem format_append (p q : Pattern) (l : Locale) (x : Instant) :
    Pattern.format (p ++ q) l x = do
      let front ← p.format l x
      let back ← q.format l x
      return front ++ back := by
  unfold format
  rw [List.mapM_append]
  cases p.mapM (Format.item l x) with
  | error failure => rfl
  | ok texts =>
      cases q.mapM (Format.item l x) with
      | error failure => rfl
      | ok texts' =>
          show Except.ok (String.ofList (texts ++ texts').flatten) =
            Except.ok (String.ofList texts.flatten ++ String.ofList texts'.flatten)
          rw [List.flatten_append, String.ofList_append]

end Pattern

namespace Instant

open Pattern (KeepsApart keepsApart_iff parse_append format_append)

/-- What is written with a valid pattern depends on the locale first, and then on the items. -/
theorem format_of_parse {s : String} {p : Pattern} (hp : Pattern.parse s = .ok p) (x : Instant)
    (locale : String) :
    x.format s locale = (Locale.parse locale).mapError Failure.locale >>= fun l => p.format l x := by
  unfold Instant.format
  rw [hp]
  rfl

/-- **Patterns in a row are written in a row.** Two valid patterns, one behind the other, are a valid
pattern if one of them is empty or the last character of the first is not the first of the second. For
every instant and every locale, the text that is written with it is the one of the first pattern and
then the one of the second; if one of them cannot be written, it fails as the first that cannot. -/
theorem patterns_in_a_row_are_written_in_a_row {s t : String} {p q : Pattern}
    (hp : Pattern.parse s = .ok p) (hq : Pattern.parse t = .ok q)
    (hcut : s = "" ∨ t = "" ∨ s.toList.getLast? ≠ t.toList.head?) :
    Pattern.parse (s ++ t) = .ok (p ++ q) ∧
    ∀ (x : Instant) (locale : String), x.format (s ++ t) locale = do
      let front ← x.format s locale
      let back ← x.format t locale
      return front ++ back := by
  have hapart : KeepsApart s.toList t.toList := by
    rw [keepsApart_iff, String.toList_eq_nil_iff, String.toList_eq_nil_iff]
    exact hcut
  have hboth := parse_append hp hq hapart
  refine ⟨hboth, ?_⟩
  intro x locale
  rw [format_of_parse hboth, format_of_parse hp, format_of_parse hq]
  cases (Locale.parse locale).mapError Failure.locale with
  | error failure => rfl
  | ok l => exact format_append p q l x

/-- The first pattern ends with a pair of apostrophes, between two fields of one letter. -/
theorem fields_around_pair_stay_apart :
    let x : Instant :=
      ⟨⟨2011, 9, 8, by decide, by decide, by decide, by decide, by decide, by decide⟩,
        .ofFields 9 54 55 0⟩
    Pattern.parse "d''" = .ok [.field 'd' 1, .literal '\''] ∧
      Pattern.parse "d'%'" = .ok [.field 'd' 1, .literal '%'] ∧
      Pattern.parse ("d''" ++ "d'%'") =
        .ok [.field 'd' 1, .literal '\'', .field 'd' 1, .literal '%'] ∧
      x.format ("d''" ++ "d'%'") "en_US" = .ok "8'8%" := by
  intro x
  have hp : Pattern.parse "d''" = .ok [.field 'd' 1, .literal '\''] := by decide +kernel
  have hq : Pattern.parse "d'%'" = .ok [.field 'd' 1, .literal '%'] := by decide +kernel
  have hfront : x.format "d''" "en_US" = .ok "8'" := by decide +kernel
  have hback : x.format "d'%'" "en_US" = .ok "8%" := by decide +kernel
  obtain ⟨hboth, hformat⟩ := patterns_in_a_row_are_written_in_a_row hp hq (by decide)
  refine ⟨hp, hq, hboth, ?_⟩
  rw [hformat, hfront, hback]
  decide +kernel

end Instant
end WikiDates
