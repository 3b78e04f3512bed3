import Mathlib.Data.List.Sort
import WikiDates.Proofs.Pattern.Grammar
import WikiDates.Text.Ascii

/-!
# What a valid pattern is

A pattern is a text in which every quotation is closed, every ASCII letter outside quotations is a
field letter and every run of a field letter has a width that the letter allows (`InGrammar`). A text
that is no pattern has one fault to report (`IsFault`): the first of the three that is not met, with
all unknown letters or with the first run that is too wide. `Pattern.parse_follows_grammar` says that
the check accepts and reports accordingly.
-/

namespace WikiDates.Pattern

/-! ### Unknown letters -/

theorem mem_asciiLetters_iff {c : Char} : c ∈ asciiLetters ↔ c.isAlpha = true := by
  constructor
  · have hall : asciiLetters.all Char.isAlpha = true := by decide +kernel
    exact List.all_eq_true.mp hall c
  · intro hc
    have hcode : c.toNat < 128 := by
      rw [Text.isAlpha_iff] at hc
      omega
    have hall : ∀ n < 128, (Char.ofNat n).isAlpha = true → Char.ofNat n ∈ asciiLetters := by
      decide +kernel
    rw [← Char.ofNat_toNat c] at hc ⊢
    exact hall c.toNat hcode hc

theorem pairwise_asciiLetters : asciiLetters.Pairwise (· < ·) := by
  decide +kernel

/-- An ASCII letter that stands outside quotations and is no field letter. -/
structure IsUnknown (cs : List Char) (c : Char) : Prop where
  isAlpha : c.isAlpha = true
  outside : StandsOutside cs c
  unknown : isFieldLetter c = false

theorem mem_unknownLettersIn {cs : List Char} (h : Even (cs.count '\'')) {c : Char} :
    c ∈ unknownLettersIn (outside cs) ↔ IsUnknown cs c := by
  rw [unknownLettersIn, List.mem_filter, mem_asciiLetters_iff, Bool.and_eq_true,
    List.contains_iff_mem, Bool.not_eq_true']
  constructor
  · rintro ⟨hc, hmem, hunknown⟩
    exact ⟨hc, (mem_outside_of_isAlpha h hc).mp hmem, hunknown⟩
  · rintro ⟨hc, hmem, hunknown⟩
    exact ⟨hc, (mem_outside_of_isAlpha h hc).mpr hmem, hunknown⟩

theorem pairwise_unknownLettersIn (cs : List Char) :
    (unknownLettersIn cs).Pairwise (· < ·) :=
  pairwise_asciiLetters.filter _

/-! ### Fields that are too wide -/

theorem badField?_eq_none_iff {items : List Item} :
    badField? items = none ↔ ∀ c n, .field c n ∈ items → allowsWidth c n = true := by
  rw [badField?, List.findSome?_eq_none_iff]
  constructor
  · intro h c n hmem
    simpa using h _ hmem
  · intro h item hmem
    cases item with
    | literal c => rfl
    | field c n => exact if_pos (h c n hmem)

theorem badField?_eq_some_iff {items : List Item} {c : Char} {n : Nat} :
    badField? items = some (c, n) ↔ ∃ front back, items = front ++ .field c n :: back ∧
      allowsWidth c n = false ∧ badField? front = none := by
  rw [badField?, List.findSome?_eq_some_iff]
  simp only [badField?, List.findSome?_eq_none_iff]
  constructor
  · rintro ⟨front, item, back, rfl, hitem, hfront⟩
    cases item with
    | literal d => cases hitem
    | field d m =>
        dsimp only at hitem
        split at hitem
        · cases hitem
        · next hwidth =>
            cases hitem
            exact ⟨front, back, rfl, by simpa using hwidth, hfront⟩
  · rintro ⟨front, back, rfl, hwidth, hfront⟩
    exact ⟨front, .field c n, back, rfl, if_neg (by simp [hwidth]), hfront⟩

/-- The fields that are read are the runs of field letters. -/
theorem collect_eq_append_field_iff {cs : List Char} {front back : List Item} {c : Char} {n : Nat} :
    collect (glyphs false cs) = front ++ .field c n :: back ↔
      ∃ before after, cs = before ++ (List.replicate n c ++ after) ∧
        FieldRun false before c n after ∧ collect (glyphs false before) = front ∧
        collect (glyphs false after) = back := by
  simp only [← spells_iff]
  constructor
  · exact Spells.exists_run
  · rintro ⟨before, after, rfl, hrun, hbefore, hafter⟩
    exact hbefore.append_run hrun hafter

/-- The fields of a text that is read have letters of fields, each at least once. -/
theorem field_of_mem_items {s : String} {letter : Char} {width : Nat}
    (h : .field letter width ∈ items s) : isFieldLetter letter = true ∧ 0 < width := by
  obtain ⟨front, back, hitems⟩ := List.append_of_mem h
  obtain ⟨before, after, -, hrun, -⟩ := collect_eq_append_field_iff.mp hitems
  exact ⟨hrun.isFieldLetter, hrun.pos⟩

/-- All runs of field letters have widths that their letters allow. -/
def AllowsRuns (cs : List Char) : Prop :=
  ∀ before c n after, cs = before ++ (List.replicate n c ++ after) →
    FieldRun false before c n after → allowsWidth c n = true

theorem badField?_collect_eq_none_iff {cs : List Char} :
    badField? (collect (glyphs false cs)) = none ↔ AllowsRuns cs := by
  rw [badField?_eq_none_iff]
  constructor
  · intro h before c n after hcs hrun
    apply h c n
    rw [collect_eq_append_field_iff.mpr ⟨before, after, hcs, hrun, rfl, rfl⟩]
    exact List.mem_append_right _ List.mem_cons_self
  · intro h c n hmem
    obtain ⟨front, back, hitems⟩ := List.append_of_mem hmem
    obtain ⟨before, after, hcs, hrun, -⟩ := collect_eq_append_field_iff.mp hitems
    exact h before c n after hcs hrun

/-- A run that starts further left than another ends before the other one starts. -/
theorem FieldRun.exists_before {cs before after before' after' : List Char} {c c' : Char}
    {n n' : Nat} (hcs : cs = before ++ (List.replicate n c ++ after))
    (hrun : FieldRun false before c n after)
    (hcs' : cs = before' ++ (List.replicate n' c' ++ after'))
    (hrun' : FieldRun false before' c' n' after') (hlt : before'.length < before.length) :
    ∃ between, before = before' ++ (List.replicate n' c' ++ between) ∧
      FieldRun false before' c' n' between := by
  rcases List.append_eq_append_iff.mp (hcs'.symm.trans hcs) with ⟨x, hx, hrest⟩ | ⟨x, hx, -⟩
  · rcases List.append_eq_append_iff.mp hrest with ⟨between, rfl, hafter'⟩ | ⟨y, hy, hrest'⟩
    · refine ⟨between, hx, { hrun' with stop := ?_ }⟩
      apply head?_ne_of_append
      rw [← hafter']
      exact hrun'.stop
    · -- Unless `y` is empty, the other run goes on where this one starts.
      cases y with
      | nil =>
          rw [List.append_nil] at hy
          exact ⟨[], by rw [hx, ← hy, List.append_nil], { hrun' with stop := nofun }⟩
      | cons d y =>
          have hall : ∀ e ∈ x ++ d :: y, e = c' := hy ▸ fun e he => List.eq_of_mem_replicate he
          have hd : c = d := by
            have hhead := hrun.head?_eq
            rw [hrest'] at hhead
            exact (Option.some.inj hhead).symm
          refine absurd ?_ hrun.start
          cases hlast : x.getLast? with
          | none =>
              rw [List.getLast?_eq_none_iff.mp hlast, List.append_nil] at hx
              rw [hx] at hlt
              exact absurd hlt (Nat.lt_irrefl _)
          | some e =>
              have he : e = c' := hall e (List.mem_append_left _ (List.mem_of_getLast? hlast))
              have hd' : d = c' := hall d (List.mem_append_right _ List.mem_cons_self)
              rw [hx, List.getLast?_append, hlast, Option.some_or, he, hd, hd']
  · rw [hx, List.length_append] at hlt
    omega

/-- The runs in front of a run are the runs that start further left. -/
theorem allowsRuns_iff_of_run {cs before after : List Char} {c : Char} {n : Nat}
    (hcs : cs = before ++ (List.replicate n c ++ after)) (hrun : FieldRun false before c n after) :
    AllowsRuns before ↔ ∀ before' c' n' after', cs = before' ++ (List.replicate n' c' ++ after') →
      FieldRun false before' c' n' after' → before'.length < before.length →
      allowsWidth c' n' = true := by
  constructor
  · intro h before' c' n' after' hcs' hrun' hlt
    obtain ⟨between, hbefore, hbetween⟩ := hrun.exists_before hcs hcs' hrun' hlt
    exact h before' c' n' between hbefore hbetween
  · rintro h before' c' n' between rfl hrun'
    refine h before' c' n' (between ++ (List.replicate n c ++ after)) ?_ ?_ ?_
    · rw [hcs, List.append_assoc, List.append_assoc]
    · have hbetween := hrun
      rw [← List.append_assoc] at hbetween
      refine { hrun' with stop := hbetween.of_append.head?_append_ne hrun'.stop ?_ }
      rintro rfl rfl
      apply hrun.start
      rw [List.append_nil, List.getLast?_append, List.getLast?_replicate, if_neg hrun'.pos.ne',
        Option.some_or]
    · have := hrun'.pos
      simp only [List.length_append, List.length_replicate]
      omega

/-! ### Patterns and faults -/

/-- The texts that are patterns. -/
structure InGrammar (cs : List Char) : Prop where
  closed : Even (cs.count '\'')
  known : ∀ c, c.isAlpha = true → StandsOutside cs c → isFieldLetter c = true
  allowed : AllowsRuns cs

/-- The fault of a text that is no pattern. -/
inductive IsFault (cs : List Char) : Fault → Prop where
  /-- The number of apostrophes is odd. -/
  | openQuotation (hodd : Odd (cs.count '\'')) : IsFault cs .openQuotation
  /-- Otherwise, there are unknown letters: each is listed once, in the order of the codes. -/
  | unknownLetters {letters : List Char} (heven : Even (cs.count '\'')) (hne : letters ≠ [])
      (hsorted : letters.Pairwise (· < ·)) (hmem : ∀ c, c ∈ letters ↔ IsUnknown cs c) :
      IsFault cs (.unknownLetters letters)
  /-- Otherwise, there is a run of forbidden width: the leftmost one is reported. -/
  | badWidth {before after : List Char} {c : Char} {n : Nat} (heven : Even (cs.count '\''))
      (hknown : ∀ c, ¬IsUnknown cs c) (hcs : cs = before ++ (List.replicate n c ++ after))
      (hrun : FieldRun false before c n after) (hwidth : allowsWidth c n = false)
      (hfirst : ∀ before' c' n' after', cs = before' ++ (List.replicate n' c' ++ after') →
        FieldRun false before' c' n' after' → before'.length < before.length →
        allowsWidth c' n' = true) :
      IsFault cs (.badWidth c n)

/-- A text with an open quotation is reported for that. -/
theorem parse_of_odd {s : String} (h : Odd (s.toList.count '\'')) :
    parse s = .error .openQuotation :=
  if_pos (List.contains_iff_mem.mpr ((mem_outside_iff s.toList).mpr h))

theorem parse_of_even {s : String} (h : Even (s.toList.count '\'')) :
    parse s = match unknownLettersIn (outside s.toList) with
      | [] =>
        match badField? (items s) with
        | none => .ok (items s)
        | some (letter, width) => .error (.badWidth letter width)
      | letters => .error (.unknownLetters letters) := by
  apply if_neg
  rwa [List.contains_iff_mem, mem_outside_iff, Nat.not_odd_iff_even]

theorem unknownLettersIn_eq_nil_iff {cs : List Char} (h : Even (cs.count '\'')) :
    unknownLettersIn (outside cs) = [] ↔ ∀ c, ¬IsUnknown cs c := by
  simp only [List.eq_nil_iff_forall_not_mem, mem_unknownLettersIn h]

theorem forall_not_isUnknown_iff {cs : List Char} :
    (∀ c, ¬IsUnknown cs c) ↔
      ∀ c, c.isAlpha = true → StandsOutside cs c → isFieldLetter c = true := by
  constructor
  · intro h c hc houtside
    by_contra hfield
    exact h c ⟨hc, houtside, by simpa using hfield⟩
  · rintro h c ⟨hc, houtside, hunknown⟩
    exact absurd ((h c hc houtside).symm.trans hunknown) (by decide)

/-- What is in the grammar is accepted, as the items that are read. -/
theorem InGrammar.parse_eq {s : String} (h : InGrammar s.toList) : parse s = .ok (items s) := by
  have hnil := (unknownLettersIn_eq_nil_iff h.closed).mpr (forall_not_isUnknown_iff.mpr h.known)
  have hnone : badField? (items s) = none := badField?_collect_eq_none_iff.mpr h.allowed
  rw [parse_of_even h.closed, hnil]
  dsimp only
  rw [hnone]

/-- Every fault is reported. -/
theorem IsFault.parse_eq {s : String} {fault : Fault} (h : IsFault s.toList fault) :
    parse s = .error fault := by
  cases h with
  | openQuotation hodd => exact parse_of_odd hodd
  | @unknownLetters letters heven hne hsorted hmem =>
      have hletters : unknownLettersIn (outside s.toList) = letters := by
        apply (pairwise_unknownLettersIn _).eq_of_mem_iff hsorted
        intro c
        rw [mem_unknownLettersIn heven, hmem]
      rw [parse_of_even heven, hletters]
      split
      · exact absurd rfl hne
      · rfl
  | @badWidth before after c n heven hknown hcs hrun hwidth hfirst =>
      have hfront := badField?_collect_eq_none_iff.mpr ((allowsRuns_iff_of_run hcs hrun).mpr hfirst)
      have hbad : badField? (items s) = some (c, n) :=
        badField?_eq_some_iff.mpr ⟨_, _,
          collect_eq_append_field_iff.mpr ⟨before, after, hcs, hrun, rfl, rfl⟩, hwidth, hfront⟩
      rw [parse_of_even heven, (unknownLettersIn_eq_nil_iff heven).mpr hknown]
      dsimp only
      rw [hbad]

/-- A text is a pattern, or it has a fault. -/
theorem inGrammar_or_isFault (cs : List Char) : InGrammar cs ∨ ∃ fault, IsFault cs fault := by
  rcases Nat.even_or_odd (cs.count '\'') with heven | hodd
  · by_cases hknown : ∀ c, ¬IsUnknown cs c
    · cases hbad : badField? (collect (glyphs false cs)) with
      | none =>
          exact Or.inl ⟨heven, forall_not_isUnknown_iff.mp hknown,
            badField?_collect_eq_none_iff.mp hbad⟩
      | some field =>
          obtain ⟨c, n⟩ := field
          obtain ⟨front, back, hitems, hwidth, hfront⟩ := badField?_eq_some_iff.mp hbad
          obtain ⟨before, after, hcs, hrun, rfl, -⟩ := collect_eq_append_field_iff.mp hitems
          have hfirst := (allowsRuns_iff_of_run hcs hrun).mp (badField?_collect_eq_none_iff.mp hfront)
          exact Or.inr ⟨_, .badWidth heven hknown hcs hrun hwidth hfirst⟩
    · rw [← unknownLettersIn_eq_nil_iff heven] at hknown
      exact Or.inr ⟨_, .unknownLetters heven hknown (pairwise_unknownLettersIn _)
        fun c => mem_unknownLettersIn heven⟩
  · exact Or.inr ⟨_, .openQuotation hodd⟩

theorem parse_eq_ok_iff {s : String} {p : Pattern} :
    parse s = .ok p ↔ InGrammar s.toList ∧ items s = p := by
  constructor
  · intro h
    rcases inGrammar_or_isFault s.toList with hs | ⟨fault, hfault⟩
    · exact ⟨hs, Except.ok.inj (hs.parse_eq.symm.trans h)⟩
    · have hboth := hfault.parse_eq.symm.trans h
      cases hboth
  · rintro ⟨hs, rfl⟩
    exact hs.parse_eq

theorem parse_eq_error_iff {s : String} {fault : Fault} :
    parse s = .error fault ↔ IsFault s.toList fault := by
  constructor
  · intro h
    rcases inGrammar_or_isFault s.toList with hs | ⟨fault', hfault⟩
    · have hboth := hs.parse_eq.symm.trans h
      cases hboth
    · rwa [← Except.error.inj (hfault.parse_eq.symm.trans h)]
  · exact IsFault.parse_eq

/-- In an accepted pattern, every ASCII letter that is copied stands inside a quotation. -/
theorem InGrammar.quoted_of_literal {cs : List Char} (h : InGrammar cs) {front back : List Item}
    {c : Char} (hitems : collect (glyphs false cs) = front ++ .literal c :: back)
    (hc : c.isAlpha = true) :
    ∃ before after, cs = before ++ c :: after ∧ quotedAfter false before = true ∧
      collect (glyphs false before) = front ∧ collect (glyphs true after) = back := by
  have hquote : c ≠ '\'' := by
    rintro rfl
    exact absurd hc (by decide)
  obtain ⟨before, after, rfl, hcopied, hbefore, hafter⟩ := (spells_iff.mpr hitems).exists_copied hquote
  cases hquoted : quotedAfter false before with
  | true => exact ⟨before, after, rfl, hquoted, hbefore.collect_eq, hquoted ▸ hafter.collect_eq⟩
  | false =>
      have hletter := h.known c hc ⟨before, after, rfl, hquoted⟩
      rw [hquoted, hletter] at hcopied
      exact absurd hcopied (by decide)

/-- **The check and the reader go by one grammar.** A text is accepted exactly if it is in the
grammar, and then as the items that the reader makes of it; a text that is not in the grammar has one
fault, and that is reported. The letters that the check finds are those outside quotations, the reader
is inside a quotation exactly where one is open, and an accepted pattern copies no ASCII letter from
anywhere else. -/
theorem parse_follows_grammar (s : String) :
    (∀ p, parse s = .ok p ↔ InGrammar s.toList ∧ items s = p) ∧
    (∀ fault, parse s = .error fault ↔ IsFault s.toList fault) ∧
    (Odd (s.toList.count '\'') →
      (parse s).mapError Fault.message = .error "unterminated quote") ∧
    (Even (s.toList.count '\'') →
      (outside s.toList).filter Char.isAlpha = lettersOutside [] s.toList) ∧
    (∀ before c after, s.toList = before ++ c :: after → c ≠ '\'' →
      glyphs false s.toList = glyphs false before ++
        glyphOf (quotedAfter false before) c :: glyphs (quotedAfter false before) after) ∧
    (∀ p front c back, parse s = .ok p → p = front ++ .literal c :: back → c.isAlpha = true →
      ∃ before after, s.toList = before ++ c :: after ∧ quotedAfter false before = true ∧
        collect (glyphs false before) = front ∧ collect (glyphs true after) = back) := by
  refine ⟨fun p => parse_eq_ok_iff, fun fault => parse_eq_error_iff, ?_, filter_outside, ?_, ?_⟩
  · intro hodd
    rw [parse_of_odd hodd]
    rfl
  · intro before c after hs hc
    rw [hs]
    exact glyphs_append_cons hc false before after
  · intro p front c back hp hitems hc
    obtain ⟨hs, rfl⟩ := parse_eq_ok_iff.mp hp
    exact hs.quoted_of_literal hitems hc

end WikiDates.Pattern
