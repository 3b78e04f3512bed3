import Mathlib.Data.List.Induction
import Mathlib.Data.Nat.Digits.Defs
import WikiDates.Proofs.Printing
import WikiDates.Proofs.Results

/-!
# The amounts of a text

    digits, letter, digits, letter, …, digits

`Expression.scan` walks along a text and carries the number that it has read so far. Here a text is
described by position instead: it is cut behind every letter, and the digits between two letters are
the number of the second (`Expression.Spells`). Digits may be missing, and those behind the last
letter belong to no amount.

`Expression.every_letter_ends_an_amount` says that the texts that are read are those of digits and
letters of units, that they are read as the amounts that they spell, and that a text may be cut
anywhere if the digits at the end of its first part are kept for the second.
-/

namespace WikiDates

/-! ### The value of digits -/

/-- The value of a run of decimal digits, of any script: the last digit counts once, the one in front
of it ten times, and so on. -/
def Text.decimalValue (digits : List Char) : Nat :=
  Nat.ofDigits 10 (digits.reverse.filterMap Text.digitValue?)

theorem Text.decimalValue_concat {c : Char} {d : Nat} (h : digitValue? c = some d)
    (digits : List Char) : decimalValue (digits ++ [c]) = decimalValue digits * 10 + d := by
  unfold decimalValue
  rw [List.reverse_append, List.reverse_singleton, List.singleton_append,
    List.filterMap_cons_some h, Nat.ofDigits_cons]
  omega

theorem Text.exists_digitValue? {c : Char} (h : isDecimalDigit c = true) :
    ∃ d, digitValue? c = some d :=
  Option.isSome_iff_exists.mp h

namespace Expression

open Results

/-! ### What a text spells -/

/-- The characters that expressions are written with. -/
def IsReadable (c : Char) : Prop :=
  Text.isDecimalDigit c = true ∨ c ∈ ['y', 'M', 'd', 'h', 'm', 's', 'S']

theorem isReadable_iff {c : Char} :
    IsReadable c ↔ Text.isDecimalDigit c = true ∨ ∃ u : TimeUnit, u.letter = c := by
  have hletters : c ∈ TimeUnit.all.map TimeUnit.letter ↔ ∃ u : TimeUnit, u.letter = c := by
    rw [List.mem_map]
    exact exists_congr fun u => and_iff_right u.mem_all
  exact or_congr_right hletters

/-- A run of decimal digits, which may be empty. -/
def IsDigits (cs : List Char) : Prop := ∀ c ∈ cs, Text.isDecimalDigit c = true

/-- A text spells an expression, with some digits behind its last letter. -/
inductive Spells : List Char → Expression → List Char → Prop where
  /-- Digits without a letter are no amount. -/
  | digits {rest : List Char} (hrest : IsDigits rest) : Spells rest [] rest
  /-- A letter ends an amount: the digits since the letter before are its number. -/
  | amount {number cs rest : List Char} {e : Expression} (unit : TimeUnit)
      (hnumber : IsDigits number) (hcs : Spells cs e rest) :
      Spells (number ++ unit.letter :: cs) (⟨unit, Text.decimalValue number⟩ :: e) rest

/-- Where a text is cut, the digits that it ends with go on in the second part. -/
theorem Spells.append {a b restA restB : List Char} {e e' : Expression} (ha : Spells a e restA)
    (hb : Spells (restA ++ b) e' restB) : Spells (a ++ b) (e ++ e') restB := by
  induction ha with
  | digits => exact hb
  | amount unit hnumber _ ih =>
      rw [List.append_assoc, List.cons_append]
      exact .amount unit hnumber (ih hb)

theorem Spells.isDigits {cs rest : List Char} {e : Expression} (h : Spells cs e rest) :
    IsDigits rest := by
  induction h with
  | digits hrest => exact hrest
  | amount _ _ _ ih => exact ih

theorem Spells.isReadable {cs rest : List Char} {e : Expression} (h : Spells cs e rest) :
    ∀ c ∈ cs, IsReadable c := by
  induction h with
  | digits hrest =>
      intro c hc
      exact Or.inl (hrest c hc)
  | amount unit hnumber _ ih =>
      intro c hc
      rcases List.mem_append.mp hc with hc | hc
      · exact Or.inl (hnumber c hc)
      · rcases List.mem_cons.mp hc with rfl | hc
        · exact isReadable_iff.mpr (Or.inr ⟨unit, rfl⟩)
        · exact ih c hc

/-- A digit in front of a text belongs to its first amount, if there is one. -/
theorem Spells.exists_cons_digit {c : Char} {cs rest : List Char} {e : Expression}
    (hc : Text.isDecimalDigit c = true) (h : Spells cs e rest) :
    ∃ e' rest', Spells (c :: cs) e' rest' := by
  cases h with
  | digits hrest => exact ⟨_, _, .digits (List.forall_mem_cons.mpr ⟨hc, hrest⟩)⟩
  | amount unit hnumber hcs =>
      exact ⟨_, _, .amount unit (List.forall_mem_cons.mpr ⟨hc, hnumber⟩) hcs⟩

theorem exists_spells {cs : List Char} (h : ∀ c ∈ cs, IsReadable c) :
    ∃ e rest, Spells cs e rest := by
  induction cs with
  | nil => exact ⟨_, _, .digits (by simp [IsDigits])⟩
  | cons c cs ih =>
      obtain ⟨hc, hcs⟩ := List.forall_mem_cons.mp h
      obtain ⟨e, rest, hspells⟩ := ih hcs
      rcases isReadable_iff.mp hc with hdigit | ⟨unit, rfl⟩
      · exact hspells.exists_cons_digit hdigit
      · exact ⟨_, _, @Spells.amount [] _ _ _ unit (by simp [IsDigits]) hspells⟩

/-! ### Reading what is spelled -/

/-- The reader carries the value of the digits behind the last letter. -/
theorem scan_digits {number : List Char} (h : IsDigits number) (cs : List Char) :
    scan 0 (number ++ cs) = scan (Text.decimalValue number) cs := by
  induction number using List.reverseRecOn generalizing cs with
  | nil => rfl
  | append_singleton number c ih =>
      obtain ⟨hnumber, hc⟩ := List.forall_mem_append.mp h
      obtain ⟨d, hd⟩ := Text.exists_digitValue? (hc c (List.mem_singleton_self c))
      rw [List.append_assoc, ih hnumber, List.singleton_append, scan, hd,
        Text.decimalValue_concat hd]

theorem Spells.scan_eq {cs rest : List Char} {e : Expression} (h : Spells cs e rest) :
    scan 0 cs = .ok e := by
  induction h with
  | @digits rest hrest =>
      have hscan := scan_digits hrest []
      rw [List.append_nil] at hscan
      exact hscan
  | amount unit hnumber _ ih =>
      rw [scan_digits hnumber, scan_letter, ih]
      rfl

instance : DecidablePred IsReadable := fun _ => inferInstanceAs (Decidable (_ ∨ _))

theorem scan_of_not_isReadable {c : Char} (h : ¬ IsReadable c) (magnitude : Nat)
    (cs : List Char) : scan magnitude (c :: cs) = .error c := by
  rw [isReadable_iff, not_or, not_exists] at h
  have hdigit : Text.digitValue? c = none := by simpa [Text.isDecimalDigit] using h.1
  have hletter : TimeUnit.ofLetter? c = none := by
    rw [Option.eq_none_iff_forall_ne_some]
    exact fun unit hunit => h.2 unit (TimeUnit.letter_of_ofLetter? hunit)
  rw [scan, hdigit]
  dsimp only
  rw [hletter]

/-- Reading ends at the first character that cannot be read. -/
theorem scan_eq_error_iff_find {magnitude : Nat} {cs : List Char} {c : Char} :
    scan magnitude cs = .error c ↔ cs.find? (¬ IsReadable ·) = some c := by
  induction cs generalizing magnitude with
  | nil => simp [scan]
  | cons b cs ih =>
      by_cases hb : IsReadable b
      · rw [List.find?_cons_of_neg (by simpa using hb)]
        rcases isReadable_iff.mp hb with hdigit | ⟨unit, rfl⟩
        · obtain ⟨d, hd⟩ := Text.exists_digitValue? hdigit
          rw [scan, hd]
          exact ih
        · rw [scan_letter, map_eq_error_iff]
          exact ih
      · rw [List.find?_cons_of_pos (by simpa using hb), scan_of_not_isReadable hb,
          Except.error.injEq, Option.some.injEq]

theorem scan_eq_error_iff {magnitude : Nat} {cs : List Char} {c : Char} :
    scan magnitude cs = .error c ↔ ∃ before after, cs = before ++ c :: after ∧
      (∀ b ∈ before, IsReadable b) ∧ ¬ IsReadable c := by
  rw [scan_eq_error_iff_find, List.find?_eq_some_iff_append]
  constructor
  · rintro ⟨hc, before, after, hcs, hbefore⟩
    exact ⟨before, after, hcs, by simpa using hbefore, by simpa using hc⟩
  · rintro ⟨before, after, hcs, hbefore, hc⟩
    exact ⟨by simpa using hc, before, after, hcs, by simpa using hbefore⟩

/-- A text is read as what it spells. -/
theorem scan_eq_ok_iff {cs : List Char} {e : Expression} :
    scan 0 cs = .ok e ↔ ∃ rest, Spells cs e rest := by
  constructor
  · intro h
    cases hfind : cs.find? (¬ IsReadable ·) with
    | none =>
        obtain ⟨e', rest, hspells⟩ := exists_spells (by simpa using List.find?_eq_none.mp hfind)
        obtain rfl : e = e' := Except.ok.inj (h.symm.trans hspells.scan_eq)
        exact ⟨rest, hspells⟩
    | some c =>
        have hboth := h.symm.trans (scan_eq_error_iff_find.mpr hfind)
        cases hboth
  · rintro ⟨rest, hspells⟩
    exact hspells.scan_eq

theorem parse_eq_ok_iff {s : String} {e : Expression} :
    parse s = .ok e ↔ ∃ rest, Spells s.toList e rest :=
  mapError_eq_ok_iff.trans scan_eq_ok_iff

theorem exists_parse_iff {s : String} :
    (∃ e, parse s = .ok e) ↔ ∀ c ∈ s.toList, IsReadable c := by
  simp only [parse_eq_ok_iff]
  constructor
  · rintro ⟨e, rest, hspells⟩
    exact hspells.isReadable
  · exact exists_spells

theorem parse_eq_error_iff {s : String} {fault : UnknownUnit} :
    parse s = .error fault ↔ ∃ before c after, s.toList = before ++ c :: after ∧
      (∀ b ∈ before, IsReadable b) ∧ ¬ IsReadable c ∧ fault = ⟨String.singleton c, some s⟩ := by
  rw [parse, mapError_eq_error_iff]
  simp only [scan_eq_error_iff]
  constructor
  · rintro ⟨c, ⟨before, after, hs, hbefore, hc⟩, rfl⟩
    exact ⟨before, c, after, hs, hbefore, hc, rfl⟩
  · rintro ⟨before, c, after, hs, hbefore, hc, rfl⟩
    exact ⟨c, ⟨before, after, hs, hbefore, hc⟩, rfl⟩

/-- **Every letter ends an amount.** A text is read exactly if all its characters are decimal digits
and letters of units; otherwise the first other character is reported, with the whole text. What is
read has one amount for each letter, in order, and the digits since the letter before are its number,
while digits behind the last letter are left out. Two texts in a row are read as the first and then
the second, if the digits that the first leaves out are put in front of the second. -/
theorem every_letter_ends_an_amount (s : String) :
    ((∃ e, parse s = .ok e) ↔ ∀ c ∈ s.toList, IsReadable c) ∧
    (∀ fault, parse s = .error fault ↔ ∃ before c after, s.toList = before ++ c :: after ∧
      (∀ b ∈ before, IsReadable b) ∧ ¬ IsReadable c ∧ fault = ⟨String.singleton c, some s⟩) ∧
    (∀ e, parse s = .ok e ↔ ∃ rest, Spells s.toList e rest) ∧
    (∀ e rest, Spells s.toList e rest → ∀ t, (∃ e', parse t = .ok e') →
      ∃ e', parse (String.ofList rest ++ t) = .ok e' ∧ parse (s ++ t) = .ok (e ++ e')) := by
  refine ⟨exists_parse_iff, fun fault => parse_eq_error_iff, fun e => parse_eq_ok_iff, ?_⟩
  intro e rest hs t ht
  have hreadable : ∀ c ∈ (String.ofList rest ++ t).toList, IsReadable c := by
    rw [String.toList_append, String.toList_ofList, List.forall_mem_append]
    exact ⟨fun c hc => Or.inl (hs.isDigits c hc), exists_parse_iff.mp ht⟩
  obtain ⟨e', he'⟩ := exists_parse_iff.mpr hreadable
  obtain ⟨rest', hrest'⟩ := parse_eq_ok_iff.mp he'
  rw [String.toList_append, String.toList_ofList] at hrest'
  refine ⟨e', he', parse_eq_ok_iff.mpr ⟨rest', ?_⟩⟩
  rw [String.toList_append]
  exact hs.append hrest'

/-- The cut runs through a number: its second digit, an Arabic one, stands in the second text. -/
example : parse ("1d2" ++ "٣h4") = .ok [⟨.day, 1⟩, ⟨.hour, 23⟩] := by decide +kernel

end Expression
end WikiDates
