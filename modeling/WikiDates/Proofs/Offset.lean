import WikiDates.Adjustment
import WikiDates.Proofs.Results

/-!
# Offsets that are counted

Amounts of some units show in a number that an instant has, such as the index of its month or its
count of microseconds: adding such an amount moves that number by it, and fails only if the sum is
the number of no instant. `Instant.Moves` says so of one amount. Then an expression of such amounts
moves the number by their total, and it leads to an instant exactly if no sum on the way is out of
range (`Instant.exists_offset_iff_of_moves`).
-/

namespace WikiDates

open Results

/-- The total of an expression, each amount of which stands for a number. -/
def Expression.total (number : Assignment → Nat) : Expression → Nat
  | [] => 0
  | a :: e => number a + total number e

theorem Expression.total_perm {number : Assignment → Nat} {e e' : Expression} (h : e'.Perm e) :
    e'.total number = e.total number := by
  induction h with
  | nil => rfl
  | cons a _ ih => rw [total, total, ih]
  | swap a b e => rw [total, total, total, total, Nat.add_left_comm]
  | trans _ _ ih ih' => rw [ih, ih']

namespace Instant

variable {sign : Int} {a : Assignment} {x y z : Instant} {e : Expression}

/-! ### Runs of an offset -/

theorem offset_cons_eq_ok_iff :
    x.offset (a :: e) sign = .ok z ↔
      ∃ y, x.shift (a.offsetShift sign) = .ok y ∧ y.offset e sign = .ok z :=
  foldlM_cons_eq_ok_iff

theorem offset_append_eq_ok_iff {before after : Expression} :
    x.offset (before ++ after) sign = .ok z ↔
      ∃ y, x.offset before sign = .ok y ∧ y.offset after sign = .ok z := by
  unfold offset
  rw [List.foldlM_append, bind_eq_ok_iff]

/-! ### Numbers that are moved -/

/-- Adding the amount moves a number of the instant by what the amount stands for, as long as the sum
is in range. -/
structure Moves (index : Instant → Int) (InRange : Int → Prop) (number : Assignment → Nat)
    (sign : Int) (a : Assignment) : Prop where
  index_eq : ∀ {x y : Instant}, x.shift (a.offsetShift sign) = .ok y →
    index y = index x + sign * number a
  exists_iff : ∀ {x : Instant}, (∃ y, x.shift (a.offsetShift sign) = .ok y) ↔
    InRange (index x + sign * number a)

variable {index : Instant → Int} {InRange : Int → Prop} {number : Assignment → Nat}

/-- What is reached behind the first amount is reached from where that amount leads to. -/
theorem index_add_total_cons (h : index y = index x + sign * number a) (k : Nat) :
    index x + sign * Expression.total number ((a :: e).take (k + 1)) =
      index y + sign * Expression.total number (e.take k) := by
  rw [h, List.take_succ_cons, Expression.total, Int.natCast_add, Int.mul_add, Int.add_assoc]

/-- Amounts move a number by their total. -/
theorem index_of_offset (h : ∀ a ∈ e, Moves index InRange number sign a)
    (hz : x.offset e sign = .ok z) : index z = index x + sign * e.total number := by
  induction e generalizing x with
  | nil =>
      cases hz
      simp [Expression.total]
  | cons a e ih =>
      obtain ⟨ha, he⟩ := List.forall_mem_cons.mp h
      obtain ⟨y, hstep, hrest⟩ := offset_cons_eq_ok_iff.mp hz
      rw [ih he hrest, ha.index_eq hstep, Expression.total, Int.natCast_add, Int.mul_add,
        Int.add_assoc]

/-- Amounts can be added exactly if all sums on the way are in range. -/
theorem exists_offset_iff_of_moves (hrange : ∀ x, InRange (index x))
    (h : ∀ a ∈ e, Moves index InRange number sign a) :
    (∃ z, x.offset e sign = .ok z) ↔
      ∀ k ≤ e.length, InRange (index x + sign * Expression.total number (e.take k)) := by
  induction e generalizing x with
  | nil =>
      refine iff_of_true ⟨x, rfl⟩ fun k _ => ?_
      simpa [Expression.total] using hrange x
  | cons a e ih =>
      obtain ⟨ha, he⟩ := List.forall_mem_cons.mp h
      constructor
      · rintro ⟨z, hz⟩ k hk
        obtain ⟨y, hstep, hrest⟩ := offset_cons_eq_ok_iff.mp hz
        cases k with
        | zero => simpa [Expression.total] using hrange x
        | succ k =>
            rw [index_add_total_cons (ha.index_eq hstep)]
            exact (ih he).mp ⟨z, hrest⟩ k (Nat.le_of_succ_le_succ hk)
      · intro hall
        -- The first sum is in range, so there is an instant from which the others are reached.
        have hfirst : InRange (index x + sign * number a) := by
          simpa [Expression.total] using hall 1 (by simp)
        obtain ⟨y, hstep⟩ := ha.exists_iff.mpr hfirst
        obtain ⟨z, hrest⟩ := (ih he).mpr fun k hk => by
          rw [← index_add_total_cons (ha.index_eq hstep)]
          exact hall (k + 1) (Nat.succ_le_succ hk)
        exact ⟨z, offset_cons_eq_ok_iff.mpr ⟨y, hstep, hrest⟩⟩

end Instant
end WikiDates
