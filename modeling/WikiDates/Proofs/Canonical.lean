import Mathlib.Data.List.Basic
import Mathlib.Data.List.Induction
import WikiDates.Options.Basic
import WikiDates.Proofs.Printing
import WikiDates.Text.Ascii

/-!
# The canonical text of an expression

    text ──parse──▶ Expression ──print──▶ canonical text

An expression has many texts: digits of any script, zeros in front of a number, letters without a
number, digits behind the last letter. Exactly one of them is canonical (`Expression.IsCanonical`): every
number is a numeral, which has ASCII digits, at least one of them and no zero in front of others, and
nothing stands behind the last letter.

`Numeral.isNumeral_iff` says that the numerals are the printed numbers, and
`Expression.isCanonical_iff` that the canonical texts are the printed expressions. So an expression is
printed as its canonical text, unless a number of it has too many digits to be printed at all.
-/

namespace WikiDates

/-! ### Numerals -/

namespace Numeral

/-- A text is a numeral as numbers are printed. -/
structure IsNumeral (cs : List Char) : Prop where
  ne_nil : cs ≠ []
  isDigit : ∀ c ∈ cs, c.isDigit = true
  eq_zero : cs.head? = some '0' → cs = ['0']

theorem digitChar_ne_zero {n : Nat} (h : n < 10) (hpos : 0 < n) : n.digitChar ≠ '0' := by
  revert n
  decide

theorem head?_decimal_ne_zero {n : Nat} (h : 0 < n) : (decimal n).head? ≠ some '0' := by
  induction n using Nat.strongRecOn with
  | _ n ih =>
      rcases Nat.lt_or_ge n 10 with hlt | hge
      · rw [decimal_of_lt hlt, List.head?_cons]
        intro hzero
        exact digitChar_ne_zero hlt h (Option.some.inj hzero)
      · -- The first digit is that of the number without its last digit.
        have hne : decimal (n / 10) ≠ [] := Nat.toDigits_ne_nil
        rw [decimal_of_le hge, List.head?_append_of_ne_nil _ hne]
        exact ih (n / 10) (by omega) (by omega)

theorem isNumeral_decimal (n : Nat) : IsNumeral (decimal n) where
  ne_nil := Nat.toDigits_ne_nil
  isDigit := fun _ hc => isDigit_of_mem_decimal hc
  eq_zero := by
    intro hhead
    rcases Nat.eq_zero_or_pos n with rfl | hpos
    · rfl
    · exact absurd hhead (head?_decimal_ne_zero hpos)

theorem exists_digitChar {c : Char} (h : c.isDigit = true) : ∃ d < 10, d.digitChar = c := by
  have hrange := Text.isDigit_iff_toNat.mp h
  refine ⟨c.toNat - 48, by omega, Char.toNat_inj.mp ?_⟩
  rw [Nat.toNat_digitChar_of_lt_ten (by omega)]
  omega

/-- A numeral without its last digit is a numeral, unless it was the only one. -/
theorem IsNumeral.of_append {cs : List Char} {c : Char} (h : IsNumeral (cs ++ [c])) (hne : cs ≠ []) :
    IsNumeral cs ∧ cs.head? ≠ some '0' := by
  have hhead : cs.head? ≠ some '0' := by
    intro hzero
    have hall := h.eq_zero (by rw [List.head?_append_of_ne_nil _ hne, hzero])
    have hlength := congrArg List.length hall
    have hpos := List.length_pos_iff.mpr hne
    rw [List.length_append] at hlength
    simp only [List.length_singleton] at hlength
    omega
  refine ⟨⟨hne, fun d hd => h.isDigit d (List.mem_append_left _ hd), ?_⟩, hhead⟩
  intro hzero
  exact absurd hzero hhead

/-- The numerals are the printed numbers. -/
theorem isNumeral_iff {cs : List Char} : IsNumeral cs ↔ ∃ n, decimal n = cs := by
  constructor
  · intro h
    induction cs using List.reverseRecOn with
    | nil => exact absurd rfl h.ne_nil
    | append_singleton cs c ih =>
        obtain ⟨d, hd, rfl⟩ := exists_digitChar (h.isDigit c (by simp))
        by_cases hne : cs = []
        · exact ⟨d, by rw [hne, decimal_of_lt hd, List.nil_append]⟩
        · obtain ⟨hcs, hhead⟩ := h.of_append hne
          obtain ⟨n, rfl⟩ := ih hcs
          have hpos : n ≠ 0 := by
            rintro rfl
            exact hhead rfl
          refine ⟨10 * n + d, ?_⟩
          rw [decimal_of_le (by omega), show (10 * n + d) / 10 = n by omega,
            show (10 * n + d) % 10 = d by omega]
  · rintro ⟨n, rfl⟩
    exact isNumeral_decimal n

end Numeral

/-! ### Canonical texts -/

namespace Expression

/-- A text is that of an expression as expressions are printed. -/
inductive IsCanonical : List Char → Prop where
  | nil : IsCanonical []
  | cons {digits rest : List Char} (unit : TimeUnit) (hdigits : Numeral.IsNumeral digits)
      (hrest : IsCanonical rest) : IsCanonical (digits ++ unit.letter :: rest)

/-- The canonical texts are the printed expressions. -/
theorem isCanonical_iff {cs : List Char} : IsCanonical cs ↔ ∃ e, chars e = cs := by
  constructor
  · intro h
    induction h with
    | nil => exact ⟨[], rfl⟩
    | cons unit hdigits _ ih =>
        obtain ⟨n, rfl⟩ := Numeral.isNumeral_iff.mp hdigits
        obtain ⟨e, rfl⟩ := ih
        exact ⟨⟨unit, n⟩ :: e, by simp [chars, Assignment.chars]⟩
  · rintro ⟨e, rfl⟩
    induction e with
    | nil => exact .nil
    | cons a e ih =>
        have hcons : chars (a :: e) = Numeral.decimal a.magnitude ++ a.unit.letter :: chars e := by
          simp [chars, Assignment.chars]
        rw [hcons]
        exact .cons a.unit (Numeral.isNumeral_decimal a.magnitude) ih

variable {e : Expression} {s t : String}

/-- An expression has one canonical text. -/
theorem isCanonical_iff_of_parse (h : parse t = .ok e) :
    IsCanonical t.toList ↔ t = String.ofList e.chars := by
  rw [isCanonical_iff]
  constructor
  · rintro ⟨e', hchars⟩
    have ht : t = String.ofList (chars e') := by rw [hchars, String.ofList_toList]
    have hsame : parse t = .ok e' := by rw [ht, parse_chars]
    obtain rfl : e = e' := Except.ok.inj (h.symm.trans hsame)
    exact ht
  · rintro rfl
    exact ⟨e, String.toList_ofList.symm⟩

theorem print_of_writable (h : ∀ a ∈ e, a.magnitude < 10 ^ Numeral.digitLimit) :
    e.print = .ok (String.ofList e.chars) := by
  unfold print print?
  rw [if_pos (isWritable_iff.mpr h)]

theorem print_of_not_writable (h : ∃ a ∈ e, 10 ^ Numeral.digitLimit ≤ a.magnitude) :
    e.print = .error .tooManyDigits := by
  have hnot : ¬ e.isWritable = true := by
    rw [isWritable_iff]
    obtain ⟨a, ha, hlarge⟩ := h
    intro hall
    exact absurd (hall a ha) (Nat.not_lt.mpr hlarge)
  unfold print print?
  rw [if_neg hnot]

/-- **Printing inverts parsing.** An expression whose numbers can all be printed is printed as a text
that is read as the same expression. Of all texts that are read so it is the canonical one: digits of
other scripts, zeros in front of a number and digits behind the last letter are gone, and every number
is there. If a number has too many digits the expression cannot be printed, although there is a text
that is read as it. -/
theorem printed_text_is_canonical (e : Expression) :
    ((∀ a ∈ e, a.magnitude < 10 ^ Numeral.digitLimit) →
      ∃ s, e.print = .ok s ∧ parse s = .ok e ∧ IsCanonical s.toList ∧
        ∀ t, parse t = .ok e → (IsCanonical t.toList ↔ t = s)) ∧
    ((∃ a ∈ e, 10 ^ Numeral.digitLimit ≤ a.magnitude) →
      e.print = .error .tooManyDigits ∧ (∀ sign, Offset.print ⟨sign, e⟩ = .error .tooManyDigits) ∧
        ∃ t, parse t = .ok e ∧ IsCanonical t.toList) := by
  have hcanonical : IsCanonical (String.ofList e.chars).toList :=
    (isCanonical_iff_of_parse (parse_chars e)).mpr rfl
  constructor
  · intro h
    exact ⟨_, print_of_writable h, parse_chars e, hcanonical, fun t => isCanonical_iff_of_parse⟩
  · intro h
    have hprint := print_of_not_writable h
    refine ⟨hprint, ?_, _, parse_chars e, hcanonical⟩
    intro sign
    unfold Offset.print
    rw [hprint]
    rfl

/-- Zeros in front, an Arabic digit, a letter without a number, and digits at the end. -/
example : (parse "007d٣My9").toOption.map print = some (.ok "7d3M0y") := by decide +kernel

end Expression
end WikiDates
