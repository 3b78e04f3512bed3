import Mathlib.Algebra.Group.Nat.Defs
import WikiDates.Expression

/-!
# Printed expressions

    Expression ──chars──▶ text ──scan──▶ Expression

Printing writes the number of every amount without leading zeros and puts the letter of its unit
behind it. A letter is no digit, so the letter ends the number, and `Expression.scan_chars` says that
reading gives back what was printed, whatever stands behind it.
-/

namespace WikiDates

/-! ### Numerals -/

theorem Text.digitValue?_digitChar {d : Nat} (h : d < 10) :
    Text.digitValue? d.digitChar = some d := by
  revert d
  decide

theorem TimeUnit.digitValue?_letter (u : TimeUnit) : Text.digitValue? u.letter = none := by
  cases u <;> decide

theorem Numeral.decimal_of_lt {n : Nat} (h : n < 10) : decimal n = [n.digitChar] :=
  Nat.toDigits_of_lt_base h

theorem Numeral.decimal_of_le {n : Nat} (h : 10 ≤ n) :
    decimal n = decimal (n / 10) ++ [(n % 10).digitChar] := by
  unfold decimal
  rw [Nat.toDigits_eq_if (by decide), if_neg (Nat.not_lt.mpr h)]

theorem Numeral.isDigit_of_mem_decimal {n : Nat} {c : Char} (h : c ∈ decimal n) :
    c.isDigit = true :=
  Nat.isDigit_of_mem_toDigits (by decide) (by decide) h

theorem Numeral.isWritable_iff {n : Nat} : isWritable n = true ↔ n < 10 ^ digitLimit := by
  unfold isWritable
  generalize digitLimit = limit
  exact decide_eq_true_iff

namespace Expression

/-- Reading a printed number gives its value. -/
theorem scan_decimal (n : Nat) (rest : List Char) :
    scan 0 (Numeral.decimal n ++ rest) = scan n rest := by
  induction n using Nat.strongRecOn generalizing rest with
  | _ n ih =>
      rcases Nat.lt_or_ge n 10 with hlt | hge
      · rw [Numeral.decimal_of_lt hlt, List.singleton_append, scan, Text.digitValue?_digitChar hlt]
        dsimp only
        rw [Nat.zero_mul, Nat.zero_add]
      · -- The last digit is read behind the others, whose number is smaller.
        have hlast : n % 10 < 10 := Nat.mod_lt n (by decide)
        rw [Numeral.decimal_of_le hge, List.append_assoc, ih (n / 10) (by omega),
          List.singleton_append, scan, Text.digitValue?_digitChar hlast]
        dsimp only
        rw [Nat.div_add_mod']

/-- The letter of a unit ends an amount. -/
theorem scan_letter (magnitude : Nat) (unit : TimeUnit) (rest : List Char) :
    scan magnitude (unit.letter :: rest) = (scan 0 rest).map (⟨unit, magnitude⟩ :: ·) := by
  rw [scan, unit.digitValue?_letter]
  dsimp only
  rw [TimeUnit.ofLetter?_letter]

theorem scan_assignment (a : Assignment) (rest : List Char) :
    scan 0 (a.chars ++ rest) = (scan 0 rest).map (a :: ·) := by
  rw [Assignment.chars, List.append_assoc, scan_decimal, List.singleton_append, scan_letter]

/-- Reading a printed expression gives it back, in front of what else is read. -/
theorem scan_chars (e : Expression) (rest : List Char) :
    scan 0 (e.chars ++ rest) = (scan 0 rest).map (e ++ ·) := by
  induction e with
  | nil =>
      cases h : scan 0 rest with
      | error c => simp [chars, h, Except.map]
      | ok e => simp [chars, h, Except.map]
  | cons a e ih =>
      rw [chars, List.flatMap_cons, List.append_assoc, scan_assignment, ← chars, ih]
      cases scan 0 rest with
      | error c => rfl
      | ok e' => rfl

/-- A printed expression is read as what it was. -/
theorem parse_chars (e : Expression) : parse (String.ofList e.chars) = .ok e := by
  have hscan := scan_chars e []
  rw [List.append_nil] at hscan
  unfold parse
  rw [String.toList_ofList, hscan]
  show Except.ok (e ++ []) = _
  rw [List.append_nil]

theorem isWritable_iff {e : Expression} :
    e.isWritable = true ↔ ∀ a ∈ e, a.magnitude < 10 ^ Numeral.digitLimit := by
  unfold isWritable
  simp only [List.all_eq_true, Numeral.isWritable_iff]

/-! ### The characters of a printed expression -/

theorem isAlphanum_letter (u : TimeUnit) : u.letter.isAlphanum = true := by
  cases u <;> decide

theorem isAlphanum_of_mem_chars {e : Expression} {c : Char} (h : c ∈ e.chars) :
    c.isAlphanum = true := by
  obtain ⟨a, -, ha⟩ := List.mem_flatMap.mp h
  rcases List.mem_append.mp ha with hdigit | hletter
  · simp [Char.isAlphanum, Numeral.isDigit_of_mem_decimal hdigit]
  · rw [List.mem_singleton.mp hletter]
    exact isAlphanum_letter a.unit

/-- A printed expression starts with a digit. -/
theorem exists_chars_eq_cons {e : Expression} (h : e ≠ []) :
    ∃ c cs, e.chars = c :: cs ∧ c.isDigit = true := by
  obtain ⟨a, e, rfl⟩ := List.exists_cons_of_ne_nil h
  have hne : Numeral.decimal a.magnitude ≠ [] := Nat.toDigits_ne_nil
  obtain ⟨c, cs, hcs⟩ := List.exists_cons_of_ne_nil hne
  refine ⟨c, cs ++ a.unit.letter :: chars e, ?_, ?_⟩
  · simp [chars, Assignment.chars, hcs]
  · exact Numeral.isDigit_of_mem_decimal (by rw [hcs]; exact List.mem_cons_self)

end Expression
end WikiDates
