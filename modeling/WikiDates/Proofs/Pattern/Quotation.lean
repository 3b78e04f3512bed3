import Mathlib.Algebra.Ring.Parity
import Mathlib.Data.List.TakeWhile
import WikiDates.Pattern.Validation

/-!
# Inside and outside of quotations

A pattern is read in two ways: the check cuts quotations out of the text (`outside`), the reader walks
along it and remembers whether a quotation is open (`glyphs`). Here a third description is given, for
the end of any text (`quotedAfter`), and both are proved to go by it. A pair of apostrophes opens and
closes nothing, so all that counts is whether the number of apostrophes is odd.
-/

namespace WikiDates.Pattern

/-! ### Where a text ends -/

/-- Whether a quotation is open at the end of a text, which starts inside one if `quoted`. Pairs of
apostrophes are taken from the left; every apostrophe that is left opens or closes a quotation. -/
def quotedAfter (quoted : Bool) : List Char → Bool
  | [] => quoted
  | '\'' :: '\'' :: cs => quotedAfter quoted cs
  | c :: cs => quotedAfter (if c = '\'' then !quoted else quoted) cs

/-- A pair closes what it opens, so that apostrophes can be counted one by one. -/
theorem quotedAfter_cons (quoted : Bool) (c : Char) (cs : List Char) :
    quotedAfter quoted (c :: cs) = quotedAfter (if c = '\'' then !quoted else quoted) cs := by
  induction cs generalizing quoted c with
  | nil => simp [quotedAfter]
  | cons d cs ih =>
      by_cases hpair : c = '\'' ∧ d = '\''
      · obtain ⟨rfl, rfl⟩ := hpair
        rw [quotedAfter, ih, if_pos rfl, if_pos rfl, Bool.not_not]
      · rw [quotedAfter]
        simpa using hpair

theorem quotedAfter_append (quoted : Bool) (a b : List Char) :
    quotedAfter quoted (a ++ b) = quotedAfter (quotedAfter quoted a) b := by
  induction a generalizing quoted with
  | nil => rfl
  | cons c a ih => rw [List.cons_append, quotedAfter_cons, ih, quotedAfter_cons]

@[simp] theorem quotedAfter_nil (quoted : Bool) : quotedAfter quoted [] = quoted := rfl

theorem quotedAfter_eq (quoted : Bool) (cs : List Char) :
    quotedAfter quoted cs = (quoted ^^ decide (Odd (cs.count '\''))) := by
  induction cs generalizing quoted with
  | nil => simp
  | cons c cs ih =>
      rw [quotedAfter_cons, ih]
      by_cases hc : c = '\''
      · subst hc
        rw [if_pos rfl, List.count_cons_self, decide_eq_decide.mpr Nat.odd_add_one, decide_not,
          Bool.xor_not, Bool.not_xor]
      · rw [if_neg hc, List.count_cons_of_ne hc]

theorem quotedAfter_of_notMem {cs : List Char} (h : '\'' ∉ cs) (quoted : Bool) :
    quotedAfter quoted cs = quoted := by
  rw [quotedAfter_eq, List.count_eq_zero.mpr h]
  simp

theorem quotedAfter_eq_true_iff (cs : List Char) :
    quotedAfter false cs = true ↔ Odd (cs.count '\'') := by
  rw [quotedAfter_eq, Bool.false_xor, decide_eq_true_iff]

/-! ### Letters outside quotations -/

/-- The character `c` stands somewhere in `cs`, outside quotations. -/
def StandsOutside (cs : List Char) (c : Char) : Prop :=
  ∃ before after, cs = before ++ c :: after ∧ quotedAfter false before = false

/-- The ASCII letters of `cs` that stand outside quotations, in order, where the text `before` stands
in front of `cs`. -/
def lettersOutside (before : List Char) : List Char → List Char
  | [] => []
  | c :: cs =>
    if c.isAlpha && !quotedAfter false before then c :: lettersOutside (before ++ [c]) cs
    else lettersOutside (before ++ [c]) cs

/-- The same letters, with an eye only on whether a quotation is open at the front of the text. -/
def lettersFrom (quoted : Bool) : List Char → List Char
  | [] => []
  | c :: cs =>
    if c = '\'' then lettersFrom (!quoted) cs
    else if c.isAlpha && !quoted then c :: lettersFrom quoted cs
    else lettersFrom quoted cs

theorem lettersOutside_eq (before cs : List Char) :
    lettersOutside before cs = lettersFrom (quotedAfter false before) cs := by
  induction cs generalizing before with
  | nil => rfl
  | cons c cs ih =>
      have hquoted : quotedAfter false (before ++ [c]) =
          if c = '\'' then !quotedAfter false before else quotedAfter false before := by
        rw [quotedAfter_append, quotedAfter_cons, quotedAfter_nil]
      rw [lettersOutside, lettersFrom, ih, hquoted]
      by_cases hc : c = '\''
      · subst hc
        rfl
      · rw [if_neg hc, if_neg hc]

theorem mem_lettersOutside {before cs : List Char} {c : Char} :
    c ∈ lettersOutside before cs ↔ c.isAlpha = true ∧
      ∃ a b, cs = a ++ c :: b ∧ quotedAfter false (before ++ a) = false := by
  induction cs generalizing before with
  | nil => simp [lettersOutside]
  | cons d cs ih =>
      have hsplit : (∃ a b, d :: cs = a ++ c :: b ∧ quotedAfter false (before ++ a) = false) ↔
          (d = c ∧ quotedAfter false before = false) ∨
            ∃ a b, cs = a ++ c :: b ∧ quotedAfter false (before ++ [d] ++ a) = false := by
        constructor
        · rintro ⟨a, b, hab, ha⟩
          cases a with
          | nil =>
              cases hab
              exact Or.inl ⟨rfl, by simpa using ha⟩
          | cons e a =>
              cases hab
              exact Or.inr ⟨a, b, rfl, by simpa using ha⟩
        · rintro (⟨rfl, hd⟩ | ⟨a, b, rfl, ha⟩)
          · exact ⟨[], cs, rfl, by simpa using hd⟩
          · exact ⟨d :: a, b, rfl, by simpa using ha⟩
      rw [lettersOutside, hsplit, and_or_left, ← ih]
      split
      · next hd =>
          rw [Bool.and_eq_true, Bool.not_eq_true'] at hd
          rw [List.mem_cons]
          refine or_congr_left ⟨?_, fun h => h.2.1.symm⟩
          rintro rfl
          exact ⟨hd.1, rfl, hd.2⟩
      · next hd =>
          refine ⟨Or.inr, Or.rec (fun h => absurd ?_ hd) id⟩
          obtain ⟨hc, rfl, hbefore⟩ := h
          rw [hc, hbefore]
          rfl

/-! ### Cutting quotations out -/

/-- Pairs of apostrophes make no difference to what stands inside quotations. -/
theorem lettersFrom_withoutPairs (quoted : Bool) (cs : List Char) :
    lettersFrom quoted (withoutPairs cs) = lettersFrom quoted cs := by
  fun_induction withoutPairs cs generalizing quoted with
  | case1 => rfl
  | case2 cs ih => simp [lettersFrom, ih]
  | case3 c cs _ ih => simp only [lettersFrom, ih]

theorem quotedAfter_withoutPairs (quoted : Bool) (cs : List Char) :
    quotedAfter quoted (withoutPairs cs) = quotedAfter quoted cs := by
  fun_induction withoutPairs cs generalizing quoted with
  | case1 => rfl
  | case2 cs ih => rw [ih, quotedAfter]
  | case3 c cs _ ih => rw [quotedAfter_cons, quotedAfter_cons, ih]

theorem afterQuote?_eq_some {cs rest : List Char} (h : afterQuote? cs = some rest) :
    ∃ quotation, cs = quotation ++ '\'' :: rest ∧ '\'' ∉ quotation := by
  induction cs with
  | nil => cases h
  | cons c cs ih =>
      rw [afterQuote?] at h
      split at h
      · next hc =>
          cases h
          exact ⟨[], by rw [hc]; rfl, List.not_mem_nil⟩
      · next hc =>
          obtain ⟨quotation, rfl, hnone⟩ := ih h
          exact ⟨c :: quotation, rfl, by simp [hnone, Ne.symm hc]⟩

theorem notMem_of_afterQuote?_eq_none {cs : List Char} (h : afterQuote? cs = none) :
    '\'' ∉ cs := by
  induction cs with
  | nil => exact List.not_mem_nil
  | cons c cs ih =>
      rw [afterQuote?] at h
      split at h
      · cases h
      · next hc => simp [ih h, Ne.symm hc]

theorem lettersFrom_true_append {quotation : List Char} (h : '\'' ∉ quotation)
    (rest : List Char) :
    lettersFrom true (quotation ++ rest) = lettersFrom true rest := by
  induction quotation with
  | nil => rfl
  | cons c quotation ih =>
      rw [List.mem_cons, not_or] at h
      rw [List.cons_append, lettersFrom, if_neg (Ne.symm h.1), if_neg (by simp), ih h.2]

/-- An apostrophe is left exactly if a quotation is open at the end. -/
theorem mem_withoutQuotations (cs : List Char) :
    '\'' ∈ withoutQuotations cs ↔ quotedAfter false cs = true := by
  fun_induction withoutQuotations cs with
  | case1 => simp
  | case2 cs rest hrest ih =>
      obtain ⟨quotation, rfl, hnone⟩ := afterQuote?_eq_some hrest
      rw [ih, quotedAfter_cons, quotedAfter_append, quotedAfter_of_notMem hnone, quotedAfter_cons]
      rfl
  | case3 cs hnone ih =>
      rw [quotedAfter_cons, quotedAfter_of_notMem (notMem_of_afterQuote?_eq_none hnone)]
      simp
  | case4 c cs hc ih =>
      rw [quotedAfter_cons, if_neg hc, ← ih, List.mem_cons, or_iff_right (Ne.symm hc)]

/-- Up to the quotation that is open at the end, if there is one, the text that is left holds the
letters outside quotations. -/
theorem filter_withoutQuotations (cs : List Char) :
    ((withoutQuotations cs).takeWhile (· ≠ '\'')).filter Char.isAlpha = lettersFrom false cs := by
  fun_induction withoutQuotations cs with
  | case1 => rfl
  | case2 cs rest hrest ih =>
      obtain ⟨quotation, rfl, hnone⟩ := afterQuote?_eq_some hrest
      rw [ih]
      show _ = lettersFrom true _
      rw [lettersFrom_true_append hnone]
      rfl
  | case3 cs hnone ih =>
      have hquoted := lettersFrom_true_append (notMem_of_afterQuote?_eq_none hnone) []
      rw [List.append_nil] at hquoted
      exact hquoted.symm
  | case4 c cs hc ih =>
      rw [List.takeWhile_cons_of_pos (by simpa using hc), lettersFrom, if_neg hc, ← ih,
        List.filter_cons]
      simp

theorem mem_outside_iff (cs : List Char) : '\'' ∈ outside cs ↔ Odd (cs.count '\'') := by
  rw [outside, mem_withoutQuotations, quotedAfter_withoutPairs, quotedAfter_eq_true_iff]

/-- If all quotations are closed, then the check finds the letters that stand outside them. -/
theorem filter_outside {cs : List Char} (h : Even (cs.count '\'')) :
    (outside cs).filter Char.isAlpha = lettersOutside [] cs := by
  have hnone : '\'' ∉ outside cs := by rwa [mem_outside_iff, Nat.not_odd_iff_even]
  have hall : (outside cs).takeWhile (· ≠ '\'') = outside cs := by
    exact List.takeWhile_eq_self_iff.mpr fun c hc => decide_eq_true fun h => hnone (h ▸ hc)
  rw [← hall, outside, filter_withoutQuotations, lettersFrom_withoutPairs, lettersOutside_eq,
    quotedAfter_nil]

theorem mem_outside_of_isAlpha {cs : List Char} (h : Even (cs.count '\'')) {c : Char}
    (hc : c.isAlpha = true) : c ∈ outside cs ↔ StandsOutside cs c := by
  have hmem : c ∈ outside cs ↔ c ∈ lettersOutside [] cs := by
    rw [← filter_outside h, List.mem_filter, and_iff_left hc]
  rw [hmem, mem_lettersOutside, and_iff_right hc]
  rfl

/-! ### Walking along the text -/

theorem glyphs_cons {c : Char} (h : c ≠ '\'') (quoted : Bool) (cs : List Char) :
    glyphs quoted (c :: cs) = glyphOf quoted c :: glyphs quoted cs := by
  rw [glyphs, if_neg h]
  rintro cs' rfl
  exact absurd rfl h

theorem glyphs_quote {cs : List Char} (h : cs.head? ≠ some '\'') (quoted : Bool) :
    glyphs quoted ('\'' :: cs) = glyphs (!quoted) cs := by
  rw [glyphs, if_pos rfl]
  rintro cs' _ rfl
  exact h rfl

/-- Wherever the reader is, it knows whether it stands inside a quotation. -/
theorem glyphs_append_cons {c : Char} (hc : c ≠ '\'') (quoted : Bool) (before after : List Char) :
    glyphs quoted (before ++ c :: after) = glyphs quoted before ++
      glyphOf (quotedAfter quoted before) c :: glyphs (quotedAfter quoted before) after := by
  fun_induction glyphs quoted before with
  | case1 quoted => exact glyphs_cons hc quoted after
  | case2 quoted before ih => exact congrArg (Glyph.literal '\'' :: ·) ih
  | case3 quoted before hpair ih =>
      have hhead : before.head? ≠ some '\'' := fun hhead => by
        obtain ⟨bs, rfl⟩ := List.head?_eq_some_iff.mp hhead
        exact hpair bs rfl rfl
      have hhead' : (before ++ c :: after).head? ≠ some '\'' := by
        cases before with
        | nil => simpa using hc
        | cons d before => exact hhead
      rw [List.cons_append, glyphs_quote hhead', ih, quotedAfter_cons, if_pos rfl]
  | case4 quoted d before hpair hd ih =>
      rw [List.cons_append, glyphs_cons hd, ih, quotedAfter_cons, if_neg hd, List.cons_append]

end WikiDates.Pattern
