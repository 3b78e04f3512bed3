import Mathlib.Data.List.Basic
import WikiDates.Proofs.Pattern.Quotation

/-!
# The grammar of patterns

    text ──Spells──▶ items

`Spells` says which texts stand for which items, by one rule for each way in which a text can go on.
Every text spells exactly the items that are read from it (`spells_iff`). So the fields of a pattern
are the runs of field letters outside quotations (`FieldRun`), and a field letter is copied only
inside a quotation.
-/

namespace WikiDates.Pattern

/-! ### The grammar -/

/-- The text spells the items, where it starts inside a quotation if the flag is set. -/
inductive Spells : Bool → List Char → List Item → Prop where
  | nil {quoted : Bool} : Spells quoted [] []
  /-- Two apostrophes in a row are copied as one. -/
  | pair {quoted : Bool} {cs : List Char} {items : List Item} (hrest : Spells quoted cs items) :
      Spells quoted ('\'' :: '\'' :: cs) (.literal '\'' :: items)
  /-- An apostrophe alone opens or closes a quotation. -/
  | quote {quoted : Bool} {cs : List Char} {items : List Item} (halone : cs.head? ≠ some '\'')
      (hrest : Spells (!quoted) cs items) : Spells quoted ('\'' :: cs) items
  /-- What stands inside a quotation is copied, and so is what is no field letter. -/
  | literal {quoted : Bool} {c : Char} {cs : List Char} {items : List Item} (hc : c ≠ '\'')
      (hcopied : quoted = true ∨ isFieldLetter c = false) (hrest : Spells quoted cs items) :
      Spells quoted (c :: cs) (.literal (literalOf c) :: items)
  /-- A whole run of one field letter is a field. -/
  | field {c : Char} {n : Nat} {cs : List Char} {items : List Item} (hc : isFieldLetter c = true)
      (hn : 0 < n) (hend : cs.head? ≠ some c) (hrest : Spells false cs items) :
      Spells false (List.replicate n c ++ cs) (.field c n :: items)

theorem ne_quote_of_isFieldLetter {c : Char} (h : isFieldLetter c = true) : c ≠ '\'' := by
  rintro rfl
  exact absurd h (by decide)

/-- One more letter makes the field in front wider, or is a field of its own. -/
theorem Spells.exists_cons {c : Char} {cs : List Char} {items : List Item}
    (hc : isFieldLetter c = true) (h : Spells false cs items) :
    ∃ items', Spells false (c :: cs) items' := by
  by_cases hhead : cs.head? = some c
  · -- Outside quotations, only a field can start with a field letter.
    generalize hquoted : false = quoted at h
    cases h with
    | nil => cases hhead
    | pair => exact absurd rfl (ne_quote_of_isFieldLetter (Option.some.inj hhead ▸ hc))
    | quote => exact absurd rfl (ne_quote_of_isFieldLetter (Option.some.inj hhead ▸ hc))
    | literal _ hcopied _ =>
        cases Option.some.inj hhead
        rw [← hquoted, hc] at hcopied
        exact absurd hcopied (by decide)
    | @field d n cs items _ hn hend hrest =>
        obtain ⟨n, rfl⟩ := Nat.exists_eq_add_one_of_ne_zero hn.ne'
        cases Option.some.inj hhead
        exact ⟨_, @Spells.field c (n + 2) cs items hc (Nat.succ_pos _) hend hrest⟩
  · exact ⟨_, @Spells.field c 1 cs items hc Nat.one_pos hhead h⟩

/-- Every text spells some items. -/
theorem exists_spells (quoted : Bool) (cs : List Char) : ∃ items, Spells quoted cs items := by
  fun_induction glyphs quoted cs with
  | case1 quoted => exact ⟨[], .nil⟩
  | case2 quoted cs ih =>
      obtain ⟨items, hitems⟩ := ih
      exact ⟨_, .pair hitems⟩
  | case3 quoted cs hpair ih =>
      obtain ⟨items, hitems⟩ := ih
      refine ⟨items, .quote ?_ hitems⟩
      intro hhead
      obtain ⟨ds, rfl⟩ := List.head?_eq_some_iff.mp hhead
      exact hpair ds rfl rfl
  | case4 quoted c cs hpair hc ih =>
      obtain ⟨items, hitems⟩ := ih
      by_cases hletter : quoted = true ∨ isFieldLetter c = false
      · exact ⟨_, .literal hc hletter hitems⟩
      · rw [not_or, Bool.not_eq_true, Bool.not_eq_false] at hletter
        obtain ⟨rfl, hfield⟩ := hletter
        exact hitems.exists_cons hfield

/-! ### Reading follows the grammar -/

theorem eq_of_consLetter {c d : Char} {n : Nat} {items rest : List Item}
    (h : consLetter d items = .field c n :: rest) : d = c := by
  fun_cases consLetter d items with
  | case1 width items =>
      rw [consLetter, if_pos rfl] at h
      cases h
      rfl
  | case2 letter width items hne =>
      rw [consLetter, if_neg hne] at h
      cases h
      rfl
  | case3 items hnone =>
      rw [consLetter] at h
      · cases h
        rfl
      · exact hnone

/-- A field in front of what is collected has been started by its letter. -/
theorem head?_of_collect {gs : List Glyph} {c : Char} {n : Nat} {items : List Item}
    (h : collect gs = .field c n :: items) : gs.head? = some (.letter c) := by
  cases gs with
  | nil => cases h
  | cons g gs =>
      cases g with
      | literal d => cases h
      | letter d => rw [eq_of_consLetter h, List.head?_cons]

theorem consLetter_of_ne {c : Char} {items : List Item}
    (h : ∀ n rest, items ≠ .field c n :: rest) : consLetter c items = .field c 1 :: items := by
  fun_cases consLetter c items with
  | case1 n rest => exact absurd rfl (h n rest)
  | case2 => rfl
  | case3 => rfl

theorem collect_replicate {c : Char} {gs : List Glyph} (h : gs.head? ≠ some (.letter c)) (n : Nat) :
    collect (List.replicate (n + 1) (.letter c) ++ gs) = .field c (n + 1) :: collect gs := by
  induction n with
  | zero => exact consLetter_of_ne fun n rest hrest => h (head?_of_collect hrest)
  | succ n ih =>
      rw [List.replicate_succ, List.cons_append, collect, ih, consLetter, if_pos rfl]

theorem glyphOf_eq_letter {c : Char} (hc : isFieldLetter c = true) :
    glyphOf false c = .letter c := by
  rw [glyphOf, hc]
  rfl

theorem glyphOf_eq_literal {quoted : Bool} {c : Char}
    (h : quoted = true ∨ isFieldLetter c = false) :
    glyphOf quoted c = .literal (literalOf c) := by
  rcases h with rfl | hc
  · rfl
  · rw [glyphOf, hc, Bool.and_false]
    rfl

theorem glyphs_replicate {c : Char} (hc : isFieldLetter c = true) (n : Nat) (cs : List Char) :
    glyphs false (List.replicate n c ++ cs) = List.replicate n (.letter c) ++ glyphs false cs := by
  induction n with
  | zero => rfl
  | succ n ih =>
      rw [List.replicate_succ, List.replicate_succ, List.cons_append, List.cons_append,
        glyphs_cons (ne_quote_of_isFieldLetter hc), ih, glyphOf_eq_letter hc]

/-- A letter in front of what is read is the first character of the text: an opening apostrophe is
never followed by a closing one at once. -/
theorem head?_of_glyphs {cs : List Char} {c : Char}
    (h : (glyphs false cs).head? = some (.letter c)) : cs.head? = some c := by
  cases cs with
  | nil => cases h
  | cons d cs =>
      by_cases hd : d = '\''
      · subst hd
        cases cs with
        | nil => cases h
        | cons e cs =>
            by_cases he : e = '\''
            · subst he
              cases h
            · rw [glyphs_quote (by simpa using he), glyphs_cons he] at h
              cases h
      · rw [glyphs_cons hd, List.head?_cons, Option.some.injEq, glyphOf] at h
        split at h
        · cases h
          rfl
        · cases h

/-- What is read from a text is what the text spells. -/
theorem Spells.collect_eq {quoted : Bool} {cs : List Char} {items : List Item}
    (h : Spells quoted cs items) : collect (glyphs quoted cs) = items := by
  induction h with
  | nil => rfl
  | pair _ ih => rw [glyphs, collect, ih]
  | quote halone _ ih => rw [glyphs_quote halone, ih]
  | literal hc hcopied _ ih =>
      rw [glyphs_cons hc, glyphOf_eq_literal hcopied, collect, ih]
  | @field c n cs items hc hn hend _ ih =>
      obtain ⟨n, rfl⟩ := Nat.exists_eq_add_one_of_ne_zero hn.ne'
      rw [glyphs_replicate hc, collect_replicate fun hhead => hend (head?_of_glyphs hhead), ih]

theorem spells_iff {quoted : Bool} {cs : List Char} {items : List Item} :
    Spells quoted cs items ↔ collect (glyphs quoted cs) = items := by
  constructor
  · exact Spells.collect_eq
  · rintro rfl
    obtain ⟨items, hitems⟩ := exists_spells quoted cs
    rwa [hitems.collect_eq]

/-! ### Fields are runs of letters -/

/-- Between `before` and `after`, the field letter `c` stands `n` times in a row, outside quotations
and with no more of it on either side. The text starts inside a quotation if `quoted`. -/
structure FieldRun (quoted : Bool) (before : List Char) (c : Char) (n : Nat) (after : List Char) :
    Prop where
  isFieldLetter : isFieldLetter c = true
  pos : 0 < n
  unquoted : quotedAfter quoted before = false
  start : before.getLast? ≠ some c
  stop : after.head? ≠ some c

theorem head?_ne_of_append {a b : List Char} {c : Char} (h : (a ++ b).head? ≠ some c) :
    a.head? ≠ some c := by
  cases a with
  | nil => nofun
  | cons d a => exact h

theorem head?_append_ne {a b : List Char} {c : Char} (ha : a.head? ≠ some c)
    (hb : a = [] → b.head? ≠ some c) : (a ++ b).head? ≠ some c := by
  cases a with
  | nil => exact hb rfl
  | cons d a => exact ha

section FieldRun

variable {quoted : Bool} {before after : List Char} {c : Char} {n : Nat}

theorem FieldRun.head?_eq (h : FieldRun quoted before c n after) :
    (List.replicate n c ++ after).head? = some c := by
  obtain ⟨n, rfl⟩ := Nat.exists_eq_add_one_of_ne_zero h.pos.ne'
  rfl

theorem FieldRun.head?_append_ne (h : FieldRun quoted before c n after) {d : Char}
    (hbefore : before.head? ≠ some d) (hd : before = [] → c ≠ d) :
    (before ++ (List.replicate n c ++ after)).head? ≠ some d := by
  apply Pattern.head?_append_ne hbefore
  intro hnil hhead
  rw [h.head?_eq] at hhead
  exact hd hnil (Option.some.inj hhead)

/-- A run stays one if more text is put in front of the text. -/
theorem FieldRun.prepend {front : List Char} (h : FieldRun (quotedAfter quoted front) before c n after)
    (hfront : before = [] → front.getLast? ≠ some c) :
    FieldRun quoted (front ++ before) c n after where
  isFieldLetter := h.isFieldLetter
  pos := h.pos
  unquoted := by rw [quotedAfter_append, h.unquoted]
  start := by
    rw [List.getLast?_append]
    cases hlast : before.getLast? with
    | none => exact hfront (List.getLast?_eq_none_iff.mp hlast)
    | some d =>
        rw [Option.some_or, ← hlast]
        exact h.start
  stop := h.stop

/-- A run stays one if text is cut off in front of it. -/
theorem FieldRun.of_append {front : List Char} (h : FieldRun quoted (front ++ before) c n after) :
    FieldRun (quotedAfter quoted front) before c n after where
  isFieldLetter := h.isFieldLetter
  pos := h.pos
  unquoted := by rw [← quotedAfter_append, h.unquoted]
  start := by
    intro hlast
    apply h.start
    rw [List.getLast?_append, hlast, Option.some_or]
  stop := h.stop

end FieldRun

theorem quotedAfter_singleton {c : Char} (hc : c ≠ '\'') (quoted : Bool) :
    quotedAfter quoted [c] = quoted := by
  rw [quotedAfter_cons, if_neg hc, quotedAfter_nil]

theorem quotedAfter_replicate {c : Char} (hc : isFieldLetter c = true) (n : Nat) :
    quotedAfter false (List.replicate n c) = false := by
  apply quotedAfter_of_notMem
  intro hmem
  exact ne_quote_of_isFieldLetter hc (List.eq_of_mem_replicate hmem).symm

/-- Every field of what a text spells is a run of its letter, between the texts that spell the items
on both sides of it. -/
theorem Spells.exists_run {quoted : Bool} {cs : List Char} {front back : List Item} {c : Char}
    {n : Nat} (h : Spells quoted cs (front ++ .field c n :: back)) :
    ∃ before after, cs = before ++ (List.replicate n c ++ after) ∧
      FieldRun quoted before c n after ∧ Spells quoted before front ∧ Spells false after back := by
  generalize hitems : front ++ .field c n :: back = items at h
  induction h generalizing front with
  | nil => simp at hitems
  | pair _ ih =>
      cases front with
      | nil => cases hitems
      | cons item front =>
          cases hitems
          obtain ⟨before, after, rfl, hrun, hbefore, hafter⟩ := ih rfl
          refine ⟨'\'' :: '\'' :: before, after, rfl, ?_, .pair hbefore, hafter⟩
          apply @FieldRun.prepend _ _ _ _ _ ['\'', '\''] hrun
          rintro - hlast
          exact ne_quote_of_isFieldLetter hrun.isFieldLetter (Option.some.inj hlast).symm
  | quote halone _ ih =>
      obtain ⟨before, after, rfl, hrun, hbefore, hafter⟩ := ih hitems
      refine ⟨'\'' :: before, after, rfl, ?_, .quote (head?_ne_of_append halone) hbefore, hafter⟩
      apply @FieldRun.prepend _ _ _ _ _ ['\''] hrun
      rintro - hlast
      exact ne_quote_of_isFieldLetter hrun.isFieldLetter (Option.some.inj hlast).symm
  | @literal quoted d _ _ hd hcopied _ ih =>
      cases front with
      | nil => cases hitems
      | cons item front =>
          cases hitems
          obtain ⟨before, after, rfl, hrun, hbefore, hafter⟩ := ih rfl
          refine ⟨d :: before, after, rfl, ?_, .literal hd hcopied hbefore, hafter⟩
          apply @FieldRun.prepend _ _ _ _ _ [d] ((quotedAfter_singleton hd quoted).symm ▸ hrun)
          -- Right in front of the run, outside quotations, no field letter is copied.
          rintro rfl hlast
          cases Option.some.inj hlast
          rcases hcopied with hcopied | hcopied
          · exact absurd (hcopied.symm.trans hrun.unquoted) (by decide)
          · exact absurd (hcopied.symm.trans hrun.isFieldLetter) (by decide)
  | @field d m cs _ hd hm hend hrest ih =>
      cases front with
      | nil =>
          cases hitems
          exact ⟨[], cs, rfl, ⟨hd, hm, rfl, nofun, hend⟩, .nil, hrest⟩
      | cons item front =>
          cases hitems
          obtain ⟨before, after, rfl, hrun, hbefore, hafter⟩ := ih rfl
          refine ⟨List.replicate m d ++ before, after, by rw [List.append_assoc], ?_,
            .field hd hm (head?_ne_of_append hend) hbefore, hafter⟩
          apply FieldRun.prepend ((quotedAfter_replicate hd m).symm ▸ hrun)
          -- Two fields of one letter never touch.
          rintro rfl hlast
          obtain ⟨m, rfl⟩ := Nat.exists_eq_add_one_of_ne_zero hm.ne'
          rw [List.getLast?_replicate, if_neg (Nat.succ_ne_zero m)] at hlast
          apply hend
          rw [List.nil_append, hrun.head?_eq, hlast]

/-! ### One text behind another -/

/-- The last character of `a` does not come again as the first of `b`. So no pair of apostrophes and
no field can reach from one text into the other. -/
def KeepsApart (a b : List Char) : Prop := ∀ c, a.getLast? = some c → b.head? ≠ some c

theorem keepsApart_iff {a b : List Char} :
    KeepsApart a b ↔ a = [] ∨ b = [] ∨ a.getLast? ≠ b.head? := by
  constructor
  · intro h
    cases hlast : a.getLast? with
    | none => exact Or.inl (List.getLast?_eq_none_iff.mp hlast)
    | some c => exact Or.inr (Or.inr (h c hlast).symm)
  · rintro (rfl | rfl | h) c hlast
    · cases hlast
    · nofun
    · rw [← hlast]
      exact h.symm

theorem KeepsApart.of_append {a a' b : List Char} (h : KeepsApart (a ++ a') b) :
    KeepsApart a' b := by
  intro c hc
  exact h c (by rw [List.getLast?_append, hc, Option.some_or])

/-- Two texts that are kept apart spell together what each of them spells. The second starts where the
first has ended, inside a quotation or outside. -/
theorem Spells.append {quoted : Bool} {a b : List Char} {front back : List Item}
    (ha : Spells quoted a front) (hb : Spells (quotedAfter quoted a) b back)
    (hcut : KeepsApart a b) : Spells quoted (a ++ b) (front ++ back) := by
  induction ha with
  | nil => exact hb
  | pair _ ih => exact .pair (ih hb (@KeepsApart.of_append ['\'', '\''] _ _ hcut))
  | quote halone _ ih =>
      rw [quotedAfter_cons, if_pos rfl] at hb
      refine .quote (head?_append_ne halone ?_) (ih hb (@KeepsApart.of_append ['\''] _ _ hcut))
      rintro rfl
      exact hcut _ rfl
  | @literal _ c _ _ hc hcopied _ ih =>
      rw [quotedAfter_cons, if_neg hc] at hb
      exact .literal hc hcopied (ih hb (@KeepsApart.of_append [c] _ _ hcut))
  | @field c n _ _ hc hn hend _ ih =>
      rw [quotedAfter_append, quotedAfter_replicate hc] at hb
      rw [List.append_assoc]
      refine .field hc hn (head?_append_ne hend ?_) (ih hb hcut.of_append)
      rintro rfl
      apply hcut
      rw [List.append_nil, List.getLast?_replicate, if_neg hn.ne']

/-- A run of a field letter is spelled as a field. -/
theorem Spells.append_run {quoted : Bool} {before after : List Char} {c : Char} {n : Nat}
    {front back : List Item} (hbefore : Spells quoted before front)
    (hrun : FieldRun quoted before c n after) (hafter : Spells false after back) :
    Spells quoted (before ++ (List.replicate n c ++ after)) (front ++ .field c n :: back) := by
  apply hbefore.append
  · rw [hrun.unquoted]
    exact .field hrun.isFieldLetter hrun.pos hrun.stop hafter
  · rintro d hd hhead
    apply hrun.start
    rw [hd, ← hhead, hrun.head?_eq]

/-- Every character that is copied stands inside a quotation or is no field letter. Apostrophes are
left out: pairs of them are copied everywhere. -/
theorem Spells.exists_copied {quoted : Bool} {cs : List Char} {front back : List Item} {c : Char}
    (h : Spells quoted cs (front ++ .literal c :: back)) (hc : c ≠ '\'') :
    ∃ before after, cs = before ++ c :: after ∧
      (quotedAfter quoted before = true ∨ isFieldLetter c = false) ∧
      Spells quoted before front ∧ Spells (quotedAfter quoted before) after back := by
  generalize hitems : front ++ .literal c :: back = items at h
  induction h generalizing front with
  | nil => simp at hitems
  | pair _ ih =>
      cases front with
      | nil =>
          cases hitems
          exact absurd rfl hc
      | cons item front =>
          cases hitems
          obtain ⟨before, after, rfl, hcopied, hbefore, hafter⟩ := ih rfl
          exact ⟨'\'' :: '\'' :: before, after, rfl, hcopied, .pair hbefore, hafter⟩
  | quote halone _ ih =>
      obtain ⟨before, after, rfl, hcopied, hbefore, hafter⟩ := ih hitems
      refine ⟨'\'' :: before, after, rfl, ?_, .quote (head?_ne_of_append halone) hbefore, ?_⟩
      all_goals rwa [quotedAfter_cons, if_pos rfl]
  | @literal quoted d cs _ hd hcopied hrest ih =>
      cases front with
      | nil =>
          injection hitems with hitem hback
          injection hitem with hcd
          subst hback
          have hsame : literalOf d = d := by
            rw [literalOf, if_neg]
            rintro rfl
            exact hc hcd
          rw [hsame] at hcd
          subst hcd
          exact ⟨[], cs, rfl, hcopied, .nil, hrest⟩
      | cons item front =>
          cases hitems
          obtain ⟨before, after, rfl, hcopied', hbefore, hafter⟩ := ih rfl
          refine ⟨d :: before, after, rfl, ?_, .literal hd hcopied hbefore, ?_⟩
          all_goals rwa [quotedAfter_cons, if_neg hd]
  | @field d m cs _ hd hm hend _ ih =>
      cases front with
      | nil => cases hitems
      | cons item front =>
          cases hitems
          obtain ⟨before, after, rfl, hcopied, hbefore, hafter⟩ := ih rfl
          refine ⟨List.replicate m d ++ before, after, by rw [List.append_assoc], ?_,
            .field hd hm (head?_ne_of_append hend) hbefore, ?_⟩
          all_goals rwa [quotedAfter_append, quotedAfter_replicate hd]

end WikiDates.Pattern
