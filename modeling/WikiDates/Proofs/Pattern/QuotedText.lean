import WikiDates.Proofs.Pattern.Template

/-!
# Quoting a text

    text ──quotation──▶ pattern ──format──▶ text

To have a text copied, letters and all, it is put between apostrophes and its own apostrophes are
doubled. Pairs of apostrophes are taken from the left, before anything is known of quotations, so an
apostrophe at the front of the text pairs with the one that should open the quotation, and the one
that opens it comes later. As long as there is something else in the text, nothing is lost by that
(`Pattern.spells_quotation`); a text of apostrophes only never opens a quotation and gains one.

`Instant.quoted_text_is_written` says exactly which texts are copied. That percent signs and what
looks like the name of a field come through is a matter of the template.
-/

namespace WikiDates

namespace Pattern

/-! ### Quotations -/

/-- A text with every apostrophe doubled. -/
def doubled (cs : List Char) : List Char :=
  cs.flatMap fun c => if c = '\'' then ['\'', '\''] else [c]

/-- A text between apostrophes, with its own apostrophes doubled. -/
def quotation (s : String) : String :=
  String.ofList ('\'' :: (doubled s.toList ++ ['\'']))

theorem doubled_quote (cs : List Char) : doubled ('\'' :: cs) = '\'' :: '\'' :: doubled cs := rfl

theorem doubled_cons {c : Char} (hc : c ≠ '\'') (cs : List Char) :
    doubled (c :: cs) = c :: doubled cs := by
  rw [doubled, List.flatMap_cons, if_neg hc]
  rfl

theorem quotedAfter_doubled (quoted : Bool) (cs : List Char) :
    quotedAfter quoted (doubled cs) = quoted := by
  induction cs with
  | nil => rfl
  | cons c cs ih =>
      by_cases hc : c = '\''
      · subst hc
        rw [doubled_quote, quotedAfter, ih]
      · rw [doubled_cons hc, quotedAfter_cons, if_neg hc, ih]

/-- Inside a quotation, no letter of a text with doubled apostrophes stands outside. -/
theorem lettersFrom_doubled (cs rest : List Char) :
    lettersFrom true (doubled cs ++ rest) = lettersFrom true rest := by
  induction cs with
  | nil => rfl
  | cons c cs ih =>
      by_cases hc : c = '\''
      · subst hc
        exact ih
      · rw [doubled_cons hc, List.cons_append, lettersFrom, if_neg hc, if_neg (by simp), ih]

/-! ### What a quotation spells -/

/-- The text that the quotation of a text stands for. -/
def quotedAs (cs : List Char) : List Char :=
  if cs.all (· == '\'') then '\'' :: cs else cs.map literalOf

theorem quotedAs_quote (cs : List Char) : quotedAs ('\'' :: cs) = '\'' :: quotedAs cs := by
  unfold quotedAs
  rw [List.all_cons, beq_self_eq_true, Bool.true_and]
  split
  · rfl
  · rfl

theorem quotedAs_cons {c : Char} (hc : c ≠ '\'') (cs : List Char) :
    quotedAs (c :: cs) = (c :: cs).map literalOf := by
  unfold quotedAs
  rw [List.all_cons, beq_false_of_ne hc, Bool.false_and]
  rfl

theorem spells_doubled (cs : List Char) :
    Spells true (doubled cs ++ ['\'']) (cs.map fun c => .literal (literalOf c)) := by
  induction cs with
  | nil => exact .quote nofun .nil
  | cons c cs ih =>
      by_cases hc : c = '\''
      · subst hc
        exact .pair ih
      · rw [doubled_cons hc]
        exact .literal hc (Or.inl rfl) ih

/-- Apostrophes at the front of a text are read in pairs, the first of them with the one in front of
the text. The next one behind them opens the quotation. -/
theorem spells_quotation (cs : List Char) :
    Spells false ('\'' :: (doubled cs ++ ['\''])) ((quotedAs cs).map .literal) := by
  induction cs with
  | nil => exact .pair .nil
  | cons c cs ih =>
      by_cases hc : c = '\''
      · subst hc
        rw [quotedAs_quote]
        exact .pair ih
      · rw [quotedAs_cons hc, List.map_map]
        refine .quote ?_ (spells_doubled (c :: cs))
        rw [doubled_cons hc]
        simpa using hc

/-- A quotation is a valid pattern: nothing but apostrophes stands outside it. -/
theorem inGrammar_quotation (s : String) : InGrammar (quotation s).toList := by
  unfold quotation
  rw [String.toList_ofList]
  exact {
    closed := by
      rw [← Nat.not_odd_iff_even, ← quotedAfter_eq_true_iff, quotedAfter_cons, quotedAfter_append,
        quotedAfter_doubled]
      decide
    known := by
      intro c hc hstands
      have hnone : lettersFrom false ('\'' :: (doubled s.toList ++ ['\''])) = [] :=
        lettersFrom_doubled s.toList ['\'']
      have hmem : c ∈ lettersOutside [] ('\'' :: (doubled s.toList ++ ['\''])) :=
        mem_lettersOutside.mpr ⟨hc, hstands⟩
      rw [lettersOutside_eq, quotedAfter_nil, hnone] at hmem
      cases hmem
    allowed := by
      rw [← badField?_collect_eq_none_iff, (spells_quotation s.toList).collect_eq,
        badField?_eq_none_iff]
      intro c n hmem
      simp at hmem }

theorem parse_quotation (s : String) :
    parse (quotation s) = .ok ((quotedAs s.toList).map .literal) := by
  rw [parse_eq_ok_iff]
  refine ⟨inGrammar_quotation s, ?_⟩
  rw [items, quotation, String.toList_ofList]
  exact (spells_quotation s.toList).collect_eq

/-! ### Texts that can be quoted -/

/-- A text that is copied from its quotation. -/
structure IsQuotable (cs : List Char) : Prop where
  /-- U+0000 is written as an apostrophe. -/
  noNull : '\x00' ∉ cs
  /-- Apostrophes alone open no quotation. -/
  other : ∃ c ∈ cs, c ≠ '\''

theorem literalOf_eq_self_iff {c : Char} : literalOf c = c ↔ c ≠ '\x00' := by
  unfold literalOf
  split
  · next h =>
      subst h
      decide
  · next h => exact iff_of_true rfl h

theorem quotedAs_eq_self_iff {cs : List Char} : quotedAs cs = cs ↔ IsQuotable cs := by
  unfold quotedAs
  split
  · next hall =>
      refine iff_of_false (List.cons_ne_self _ _) ?_
      rintro ⟨-, c, hc, hother⟩
      exact hother (eq_of_beq (List.all_eq_true.mp hall c hc))
  · next hall =>
      have hother : ∃ c ∈ cs, c ≠ '\'' := by simpa using hall
      have hself : cs.map literalOf = cs ↔ ∀ c ∈ cs, literalOf c = id c := by
        rw [← List.map_inj_left, List.map_id]
      simp only [hself, id, literalOf_eq_self_iff]
      constructor
      · intro h
        exact ⟨fun hnull => h _ hnull rfl, hother⟩
      · rintro ⟨hnull, -⟩ c hc rfl
        exact hnull hc

theorem fill_literals (write : Char → Nat → Except Failure (List Char)) (cs : List Char) :
    fill write (cs.map .literal) = .ok cs := by
  induction cs with
  | nil => rfl
  | cons c cs ih =>
      rw [List.map_cons, fill_cons, ih]
      rfl

end Pattern

namespace Instant

/-- **A quoted text is written as it is.** The quotation of a text is always a valid pattern. It is
written as the text itself, for every instant and in every locale, exactly if the text holds something
else than apostrophes and no U+0000. Whatever fields are written as, the template is then filled in
with the text: no percent sign and no letter of it is taken for more than a character. -/
theorem quoted_text_is_written (s : String) :
    ∃ p, Pattern.parse (Pattern.quotation s) = .ok p ∧
      (∀ write, Template.Fills write p.template.toList (.ok s.toList) ↔
        Pattern.IsQuotable s.toList) ∧
      ∀ (x : Instant) (locale : String) (l : Locale), Locale.parse locale = .ok l →
        (x.format (Pattern.quotation s) locale = .ok s ↔ Pattern.IsQuotable s.toList) := by
  have hp := Pattern.parse_quotation s
  refine ⟨_, hp, ?_, ?_⟩
  · intro write
    rw [Pattern.fills_template_iff hp, Pattern.fill_literals, Except.ok.injEq, eq_comm,
      Pattern.quotedAs_eq_self_iff]
  · intro x locale l hl
    have hformat : x.format (Pattern.quotation s) locale =
        .ok (String.ofList (Pattern.quotedAs s.toList)) := by
      rw [format_of_parse hp, hl]
      show Pattern.format ((Pattern.quotedAs s.toList).map .literal) l x = _
      rw [Pattern.format_eq_fill, Pattern.fill_literals]
      rfl
    rw [hformat, Except.ok.injEq, ← String.toList_inj, String.toList_ofList,
      Pattern.quotedAs_eq_self_iff]

/-- Apostrophes at both ends and in the middle, and what could be the name of a field. -/
theorem text_like_a_field_is_copied :
    let x : Instant :=
      ⟨⟨2011, 9, 8, by decide, by decide, by decide, by decide, by decide, by decide⟩,
        .ofFields 9 54 55 0⟩
    Pattern.quotation "'%(d)s o'clock'" = "'''%(d)s o''clock'''" ∧
      Pattern.IsQuotable "'%(d)s o'clock'".toList ∧ (Locale.parse "en_US").isOk = true ∧
      x.format "'''%(d)s o''clock'''" "en_US" = .ok "'%(d)s o'clock'" := by
  intro x
  have hquotation : Pattern.quotation "'%(d)s o'clock'" = "'''%(d)s o''clock'''" := by
    decide +kernel
  have hquotable : Pattern.IsQuotable "'%(d)s o'clock'".toList := ⟨by decide, 'o', by decide⟩
  have hlocale : (Locale.parse "en_US").isOk = true := by decide +kernel
  obtain ⟨l, hl⟩ := Results.exists_of_isOk hlocale
  obtain ⟨p, -, -, hformat⟩ := quoted_text_is_written "'%(d)s o'clock'"
  refine ⟨hquotation, hquotable, hlocale, ?_⟩
  rw [← hquotation]
  exact (hformat x "en_US" l hl).mpr hquotable

/-- A text of apostrophes gains one. -/
example : Pattern.parse (Pattern.quotation "'") = .ok [.literal '\'', .literal '\''] := by
  decide +kernel

end Instant
end WikiDates
