import Mathlib
import WikiDates.Number.Binary64

/-!
# The range of double-precision numbers

A ratio has a nearest double-precision number exactly below `Binary64.limit`. The statements on the
way are about a ratio that is scaled by a power of two, as rounding scales it: `Binary64.Below` puts
the scaled ratio below another power of two, and only the sum of the two exponents counts.
-/

namespace WikiDates

/-! ### Rounding -/

theorem roundToEven_le {p q m : Nat} (hq : 0 < q) (h : p ≤ q * m) : roundToEven p q ≤ m := by
  have hsplit := Nat.div_add_mod p q
  have hrest := Nat.mod_lt p hq
  unfold roundToEven
  rcases Nat.lt_or_ge (p / q) m with hlt | hge
  · dsimp only
    split
    · omega
    · split <;> omega
  · -- Here `p` is `q * m`, so there is no rest to round up.
    have hmul : q * m ≤ q * (p / q) := Nat.mul_le_mul_left q hge
    have hwhole : p / q ≤ m := (Nat.div_le_iff_le_mul_add_pred hq).mpr (by omega)
    rw [if_pos (by omega)]
    exact hwhole

theorem even_le_roundToEven_iff {p q m : Nat} (hq : 0 < q) (heven : m % 2 = 0) (hm : 0 < m) :
    m ≤ roundToEven p q ↔ (2 * m - 1) * q ≤ 2 * p := by
  have hsplit := Nat.div_add_mod p q
  have hrest := Nat.mod_lt p hq
  have hodd : (2 * m - 1) * q = 2 * (q * m) - q := by
    rw [Nat.sub_mul, Nat.one_mul, Nat.mul_assoc, Nat.mul_comm m q]
  have hone : q * 1 ≤ q * m := Nat.mul_le_mul_left q hm
  unfold roundToEven
  rcases Nat.lt_or_ge (p / q) m with hlt | hge
  · rcases Nat.lt_or_ge (p / q + 1) m with hlt' | hge'
    · have hmul : q * (p / q + 2) ≤ q * m := Nat.mul_le_mul_left q hlt'
      rw [Nat.mul_add] at hmul
      dsimp only
      split
      · omega
      · split <;> omega
    · -- Below an even number by less than one, half a unit decides, and a tie goes up.
      have hnext : m = p / q + 1 := by omega
      have hmul : q * m = q * (p / q) + q := by rw [hnext, Nat.mul_add, Nat.mul_one]
      dsimp only
      split
      · omega
      · split <;> omega
  · have hmul : q * m ≤ q * (p / q) := Nat.mul_le_mul_left q hge
    dsimp only
    split
    · omega
    · split <;> omega

namespace Binary64

/-! ### Scaled ratios -/

/-- `p / q`, scaled down by `2 ^ e`, lies below `2 ^ k`. -/
def Below (p q : Nat) (e : Int) (k : Nat) : Prop :=
  p * 2 ^ (-e).toNat < q * 2 ^ e.toNat * 2 ^ k

theorem below_pred {p q k : Nat} {e : Int} : Below p q (e - 1) (k + 1) ↔ Below p q e k := by
  unfold Below
  rcases Int.lt_or_le 0 e with hpos | hneg
  · have hup : e.toNat = (e - 1).toNat + 1 := by omega
    have hdown : (-(e - 1)).toNat = (-e).toNat := by omega
    have hpow : q * 2 ^ (e - 1).toNat * 2 ^ (k + 1) = q * 2 ^ e.toNat * 2 ^ k := by
      rw [hup, Nat.pow_succ, Nat.pow_succ]
      simp only [Nat.mul_assoc, Nat.mul_left_comm, Nat.mul_comm]
    rw [hdown, hpow]
  · have hup : (e - 1).toNat = e.toNat := by omega
    have hdown : (-(e - 1)).toNat = (-e).toNat + 1 := by omega
    have hleft : p * 2 ^ (-(e - 1)).toNat = 2 * (p * 2 ^ (-e).toNat) := by
      rw [hdown, Nat.pow_succ]
      simp only [Nat.mul_left_comm, Nat.mul_comm]
    have hright : q * 2 ^ (e - 1).toNat * 2 ^ (k + 1) = 2 * (q * 2 ^ e.toNat * 2 ^ k) := by
      rw [hup, Nat.pow_succ]
      simp only [Nat.mul_assoc, Nat.mul_left_comm, Nat.mul_comm]
    rw [hleft, hright]
    omega

theorem below_sub {p q k : Nat} {e : Int} (n : Nat) :
    Below p q (e - n) (k + n) ↔ Below p q e k := by
  induction n with
  | zero => simp
  | succ n ih =>
      rw [← ih, ← below_pred (e := e - n)]
      have he : e - ((n + 1 : Nat) : Int) = e - n - 1 := by omega
      rw [he]
      rfl

theorem Below.mono {p q k l : Nat} {e f : Int} (h : Below p q e k) (hle : e + k ≤ f + l) :
    Below p q f l := by
  -- Both sides are brought to the smaller exponent, where only the powers are compared.
  have key : ∀ (g : Int) (m n : Nat), m ≤ n → Below p q g m → Below p q g n := by
    intro g m n hmn hbelow
    exact Nat.lt_of_lt_of_le hbelow
      (Nat.mul_le_mul_left _ (Nat.pow_le_pow_right (by decide) hmn))
  rcases Int.le_total e f with hef | hfe
  · rw [← below_sub (f - e).toNat]
    have he : f - ((f - e).toNat : Int) = e := by omega
    rw [he]
    exact key e k _ (by omega) h
  · rw [← below_sub (e - f).toNat] at h
    have hf : e - ((e - f).toNat : Int) = f := by omega
    rw [hf] at h
    exact key f _ l (by omega) h

/-! ### The exponent of a ratio -/

theorem below_guess {p q : Nat} (hq : 0 < q) :
    Below p q ((p.log2 : Int) - q.log2 - 52) 53 := by
  have hp : p < 2 ^ (p.log2 + 1) := Nat.lt_log2_self
  have hlog : 2 ^ q.log2 ≤ q := Nat.log2_self_le (by omega)
  unfold Below
  generalize hx : (-((p.log2 : Int) - q.log2 - 52)).toNat = x
  generalize hy : ((p.log2 : Int) - q.log2 - 52).toNat = y
  have hsum : p.log2 + 1 + x = q.log2 + y + 53 := by omega
  calc
    p * 2 ^ x < 2 ^ (p.log2 + 1) * 2 ^ x := Nat.mul_lt_mul_of_pos_right hp (Nat.two_pow_pos x)
    _ = 2 ^ q.log2 * 2 ^ y * 2 ^ 53 := by rw [← Nat.pow_add, ← Nat.pow_add, ← Nat.pow_add, hsum]
    _ ≤ q * 2 ^ y * 2 ^ 53 := Nat.mul_le_mul_right _ (Nat.mul_le_mul_right _ hlog)

theorem not_below_guess {p q : Nat} (hp : p ≠ 0) :
    ¬ Below p q ((p.log2 : Int) - q.log2 - 52) 51 := by
  have hlog : 2 ^ p.log2 ≤ p := Nat.log2_self_le hp
  have hq : q < 2 ^ (q.log2 + 1) := Nat.lt_log2_self
  unfold Below
  generalize hx : (-((p.log2 : Int) - q.log2 - 52)).toNat = x
  generalize hy : ((p.log2 : Int) - q.log2 - 52).toNat = y
  have hsum : q.log2 + 1 + y + 51 = p.log2 + x := by omega
  apply Nat.not_lt_of_le
  calc
    q * 2 ^ y * 2 ^ 51 ≤ 2 ^ (q.log2 + 1) * 2 ^ y * 2 ^ 51 :=
      Nat.mul_le_mul_right _ (Nat.mul_le_mul_right _ (Nat.le_of_lt hq))
    _ = 2 ^ p.log2 * 2 ^ x := by rw [← Nat.pow_add, ← Nat.pow_add, ← Nat.pow_add, hsum]
    _ ≤ p * 2 ^ x := Nat.mul_le_mul_right _ hlog

theorem exponentFor_eq (p q : Nat) :
    ¬ Below p q ((p.log2 : Int) - q.log2 - 52) 52 ∧
        exponentFor p q = max (-1074) ((p.log2 : Int) - q.log2 - 52) ∨
      Below p q ((p.log2 : Int) - q.log2 - 52) 52 ∧
        exponentFor p q = max (-1074) ((p.log2 : Int) - q.log2 - 52 - 1) := by
  unfold exponentFor
  dsimp only
  split
  · next h => exact Or.inr ⟨h, rfl⟩
  · next h => exact Or.inl ⟨h, rfl⟩

/-- The exponent gives a ratio a significand of at most 53 bits. -/
theorem below_exponentFor {p q : Nat} (hq : 0 < q) : Below p q (exponentFor p q) 53 := by
  rcases exponentFor_eq p q with ⟨-, he⟩ | ⟨hbelow, he⟩
  · exact (below_guess hq).mono (by omega)
  · exact hbelow.mono (by omega)

/-- It gives it exactly 53 bits, unless it is the least exponent. -/
theorem not_below_exponentFor {p q : Nat} (hp : p ≠ 0) (hleast : -1074 < exponentFor p q) :
    ¬ Below p q (exponentFor p q) 52 := by
  intro h
  rcases exponentFor_eq p q with ⟨hge, he⟩ | ⟨-, he⟩
  · exact hge (h.mono (by omega))
  · exact not_below_guess hp (h.mono (by omega))

theorem exponentFor_zero (q : Nat) : exponentFor 0 q ≤ -52 := by
  have hlog : (0 : Nat).log2 = 0 := by decide
  rcases exponentFor_eq 0 q with ⟨-, he⟩ | ⟨-, he⟩ <;> rw [he, hlog] <;> omega

/-- The exponent of a ratio below a power of two. -/
theorem exponentFor_le {p q k : Nat} (h : Below p q 0 k) :
    exponentFor p q ≤ max (-52) ((k : Int) - 53) := by
  rcases Nat.eq_zero_or_pos p with rfl | hpos
  · have := exponentFor_zero q
    omega
  · apply Int.not_lt.mp
    intro hlt
    exact not_below_exponentFor (Nat.ne_of_gt hpos) (by omega) (h.mono (by omega))

/-! ### Which ratios have a nearest number -/

/-- The significand of a ratio before it is brought below `2 ^ 53`. -/
def significandFor (p q : Nat) : Nat :=
  roundToEven (p * 2 ^ (-exponentFor p q).toNat) (q * 2 ^ (exponentFor p q).toNat)

theorem significandFor_le {p q : Nat} (hq : 0 < q) : significandFor p q ≤ 2 ^ 53 :=
  roundToEven_le (Nat.mul_pos hq (Nat.two_pow_pos _)) (Nat.le_of_lt (below_exponentFor hq))

theorem ofRatio?_eq (p q : Nat) :
    ofRatio? p q =
      let x : Binary64 :=
        if significandFor p q = 2 ^ 53 then ⟨2 ^ 52, exponentFor p q + 1⟩
        else ⟨significandFor p q, exponentFor p q⟩
      if x.exponent ≤ 971 then some x else none :=
  rfl

theorem ofRatio?_eq_none_iff_exponent {p q : Nat} :
    ofRatio? p q = none ↔
      971 < exponentFor p q ∨ exponentFor p q = 971 ∧ significandFor p q = 2 ^ 53 := by
  rw [ofRatio?_eq]
  dsimp only
  split
  · next h =>
      simp only [h, and_true]
      split <;> simp <;> omega
  · next h =>
      simp only [h, and_false, or_false]
      split <;> simp <;> omega

theorem below_zero_iff {p q k : Nat} : Below p q 0 k ↔ p < q * 2 ^ k := by
  rw [Below, Int.neg_zero, Int.toNat_zero, Nat.pow_zero, Nat.mul_one, Nat.mul_one]

theorem below_limit {p q : Nat} (h : Below p q 0 1023) : p < limit * q := by
  have hpow : 2 ^ 1023 ≤ limit := by decide +kernel
  have hmul := Nat.mul_le_mul_left q hpow
  rw [below_zero_iff] at h
  rw [Nat.mul_comm]
  exact Nat.lt_of_lt_of_le h hmul

theorem limit_le_of_not_below {p q : Nat} (h : ¬ Below p q 0 1024) : limit * q ≤ p := by
  have hpow : limit ≤ 2 ^ 1024 := by decide +kernel
  rw [below_zero_iff, Nat.mul_comm] at h
  exact Nat.le_trans (Nat.mul_le_mul_right q hpow) (Nat.le_of_not_lt h)

/-- With the largest exponent, a ratio is rounded to a significand that is too large from the
midpoint above the largest number on. -/
theorem even_le_significand_iff {p q : Nat} (hq : 0 < q) :
    2 ^ 53 ≤ roundToEven p (q * 2 ^ (971 : Int).toNat) ↔ limit * q ≤ p := by
  have hlimit : (2 * 2 ^ 53 - 1) * 2 ^ (971 : Int).toNat = 2 * limit := by decide +kernel
  rw [even_le_roundToEven_iff (Nat.mul_pos hq (Nat.two_pow_pos _)) (by decide) (by decide),
    Nat.mul_left_comm, hlimit, Nat.mul_comm q, Nat.mul_assoc]
  exact Nat.mul_le_mul_left_iff (by decide)

/-- Exactly the ratios from the limit on have no nearest number. -/
theorem ofRatio?_eq_none_iff {p q : Nat} (hq : 0 < q) :
    ofRatio? p q = none ↔ limit * q ≤ p := by
  have hle := significandFor_le (p := p) hq
  rw [ofRatio?_eq_none_iff_exponent]
  -- Only with the largest exponent does the rounding of the significand decide.
  rcases Int.lt_trichotomy (exponentFor p q) 971 with hlt | heq | hgt
  · have hbelow : Below p q 0 1023 := (below_exponentFor hq).mono (by omega)
    have := below_limit hbelow
    omega
  · unfold significandFor at hle ⊢
    rw [heq] at hle ⊢
    have hdown : p * 2 ^ (-(971 : Int)).toNat = p := Nat.mul_one p
    rw [hdown] at hle ⊢
    rw [← even_le_significand_iff hq]
    constructor
    · rintro (h | ⟨-, h⟩)
      · exact absurd h (Int.lt_irrefl _)
      · exact Nat.le_of_eq h.symm
    · intro h
      exact Or.inr ⟨rfl, Nat.le_antisymm hle h⟩
  · have hpos : p ≠ 0 := by
      rintro rfl
      have := exponentFor_zero q
      omega
    have hnot : ¬ Below p q 0 1024 := fun h =>
      not_below_exponentFor hpos (by omega) (h.mono (by omega))
    exact ⟨fun _ => limit_le_of_not_below hnot, fun _ => Or.inl hgt⟩

theorem ofNat?_eq_none_iff {n : Nat} : ofNat? n = none ↔ limit ≤ n := by
  rw [ofNat?, ofRatio?_eq_none_iff Nat.one_pos, Nat.mul_one]

/-! ### What rounding keeps -/

/-- The nearest number is the rounded significand with its exponent, unless the significand has
grown to `2 ^ 53`. -/
theorem ofRatio?_eq_some {p q : Nat} {x : Binary64} (h : ofRatio? p q = some x) :
    x.exponent ≤ 971 ∧
      (significandFor p q = 2 ^ 53 ∧ x = ⟨2 ^ 52, exponentFor p q + 1⟩ ∨
        significandFor p q ≠ 2 ^ 53 ∧ x = ⟨significandFor p q, exponentFor p q⟩) := by
  rw [ofRatio?_eq] at h
  dsimp only at h
  by_cases hcarry : significandFor p q = 2 ^ 53
  · rw [if_pos hcarry] at h
    split at h
    · next hexp =>
        cases h
        exact ⟨hexp, Or.inl ⟨hcarry, rfl⟩⟩
    · cases h
  · rw [if_neg hcarry] at h
    split at h
    · next hexp =>
        cases h
        exact ⟨hexp, Or.inr ⟨hcarry, rfl⟩⟩
    · cases h

theorem numerator_eq (x : Binary64) : x.numerator = x.significand * 2 ^ x.exponent.toNat := rfl

theorem denominator_eq (x : Binary64) : x.denominator = 2 ^ (-x.exponent).toNat := rfl

/-- Every number is below the limit. -/
theorem numerator_lt_of_ofRatio? {p q : Nat} {x : Binary64} (hq : 0 < q)
    (h : ofRatio? p q = some x) : x.numerator < limit * x.denominator := by
  have hle := significandFor_le (p := p) hq
  obtain ⟨hexp, hx⟩ := ofRatio?_eq_some h
  have hsig : x.significand ≤ 2 ^ 53 - 1 := by
    rcases hx with ⟨-, rfl⟩ | ⟨hne, rfl⟩
    · show 2 ^ 52 ≤ 2 ^ 53 - 1
      decide
    · exact Nat.le_sub_one_of_lt (Nat.lt_of_le_of_ne hle hne)
  have hlimit : (2 ^ 53 - 1) * 2 ^ (971 : Int).toNat < limit := by decide +kernel
  have hpow : 2 ^ x.exponent.toNat ≤ 2 ^ (971 : Int).toNat :=
    Nat.pow_le_pow_right (by decide) (by omega)
  calc
    x.numerator ≤ (2 ^ 53 - 1) * 2 ^ (971 : Int).toNat := Nat.mul_le_mul hsig hpow
    _ < limit := hlimit
    _ ≤ limit * x.denominator := Nat.le_mul_of_pos_right limit (Nat.two_pow_pos _)

/-- A ratio up to 1 is rounded to a number up to 1. -/
theorem numerator_le_of_ofRatio? {p q : Nat} {x : Binary64} (hq : 0 < q) (hpq : p ≤ q)
    (h : ofRatio? p q = some x) : x.numerator ≤ x.denominator := by
  have hexp : exponentFor p q ≤ -52 := by
    have hbelow : Below p q 0 1 := below_zero_iff.mpr (by omega)
    have := exponentFor_le hbelow
    omega
  have hup : (exponentFor p q).toNat = 0 := by omega
  have hle : significandFor p q ≤ 2 ^ (-exponentFor p q).toNat := by
    rw [significandFor, hup, Nat.pow_zero, Nat.mul_one]
    exact roundToEven_le hq (Nat.mul_le_mul_right _ hpq)
  obtain ⟨-, ⟨hcarry, rfl⟩ | ⟨-, rfl⟩⟩ := ofRatio?_eq_some h
  · have hdown : (-exponentFor p q).toNat = (-(exponentFor p q + 1)).toNat + 1 := by omega
    have hzero : (exponentFor p q + 1).toNat = 0 := by omega
    rw [hcarry, hdown, Nat.pow_succ] at hle
    simp only [numerator_eq, denominator_eq, hzero, Nat.pow_zero, Nat.mul_one]
    omega
  · simpa only [numerator_eq, denominator_eq, hup, Nat.pow_zero, Nat.mul_one] using hle

/-! ### Operations on numbers up to 1 -/

theorem denominator_pos (x : Binary64) : 0 < x.denominator := Nat.two_pow_pos _

theorem exists_ofRatio? {p q : Nat} (hq : 0 < q) (h : p < limit * q) :
    ∃ x, ofRatio? p q = some x := by
  apply Option.ne_none_iff_exists'.mp
  intro hnone
  exact absurd h (Nat.not_lt_of_le ((ofRatio?_eq_none_iff hq).mp hnone))

theorem exists_ofNat? {n : Nat} (h : n < limit) :
    ∃ x, ofNat? n = some x ∧ x.numerator < limit * x.denominator := by
  obtain ⟨x, hx⟩ := exists_ofRatio? (p := n) Nat.one_pos (by rwa [Nat.mul_one])
  exact ⟨x, hx, numerator_lt_of_ofRatio? Nat.one_pos hx⟩

theorem exists_ofRatio?_of_le {p q : Nat} (hq : 0 < q) (h : p ≤ q) :
    ∃ x, ofRatio? p q = some x ∧ x.numerator ≤ x.denominator := by
  have hlimit : 1 < limit := by decide +kernel
  have hlt : p < limit * q := by
    have := Nat.mul_lt_mul_of_pos_right hlimit hq
    omega
  obtain ⟨x, hx⟩ := exists_ofRatio? hq hlt
  exact ⟨x, hx, numerator_le_of_ofRatio? hq h hx⟩

/-- A number up to 1 can be rounded to any number of places, and stays up to 1. -/
theorem exists_roundedTo? {x : Binary64} (h : x.numerator ≤ x.denominator) (places : Nat) :
    ∃ y, x.roundedTo? places = some y ∧ y.numerator ≤ y.denominator :=
  exists_ofRatio?_of_le (Nat.pow_pos (by decide))
    (roundToEven_le x.denominator_pos (Nat.mul_le_mul_right _ h))

/-- A number can be multiplied by a number up to 1. -/
theorem exists_mul? {x y : Binary64} (hx : x.numerator ≤ x.denominator)
    (hy : y.numerator < limit * y.denominator) : ∃ z, x.mul? y = some z := by
  apply exists_ofRatio? (Nat.mul_pos x.denominator_pos y.denominator_pos)
  calc
    x.numerator * y.numerator ≤ x.denominator * y.numerator := Nat.mul_le_mul_right _ hx
    _ < x.denominator * (limit * y.denominator) :=
      Nat.mul_lt_mul_of_pos_left hy x.denominator_pos
    _ = limit * (x.denominator * y.denominator) := Nat.mul_left_comm ..

end Binary64
end WikiDates
