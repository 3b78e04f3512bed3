/-!
# Results and their failures

How a result is put together from others: it succeeds if all of them do, and it fails with the first
failure among them. `foldlM_eq_error_iff` says it of a run of steps, each on the result of the one
before, and `mapM_eq_error_iff` of independent parts.
-/

namespace WikiDates.Results

variable {ε ε' α β : Type}

/-! ### Single results -/

theorem bind_eq_ok_iff {r : Except ε α} {f : α → Except ε β} {b : β} :
    (r >>= f) = .ok b ↔ ∃ a, r = .ok a ∧ f a = .ok b := by
  cases r with
  | error e =>
      constructor
      · intro h
        cases h
      · rintro ⟨_, h, -⟩
        cases h
  | ok a =>
      constructor
      · intro h
        exact ⟨a, rfl, h⟩
      · rintro ⟨_, h, ok⟩
        cases h
        exact ok

theorem bind_eq_error_iff {r : Except ε α} {f : α → Except ε β} {e : ε} :
    (r >>= f) = .error e ↔ r = .error e ∨ ∃ a, r = .ok a ∧ f a = .error e := by
  cases r with
  | error e' =>
      constructor
      · intro h
        exact Or.inl (by cases h; rfl)
      · rintro (h | ⟨_, h, _⟩)
        · cases h
          rfl
        · cases h
  | ok a =>
      constructor
      · intro h
        exact Or.inr ⟨a, rfl, h⟩
      · rintro (h | ⟨_, h, failed⟩)
        · cases h
        · cases h
          exact failed

theorem map_eq_ok_iff {r : Except ε α} {f : α → β} {b : β} :
    r.map f = .ok b ↔ ∃ a, r = .ok a ∧ f a = b := by
  cases r with
  | error e => simp [Except.map]
  | ok a => simp [Except.map]

theorem map_eq_error_iff {r : Except ε α} {f : α → β} {e : ε} :
    r.map f = .error e ↔ r = .error e := by
  cases r with
  | error e => simp [Except.map]
  | ok a => simp [Except.map]

theorem mapError_eq_ok_iff {r : Except ε α} {f : ε → ε'} {a : α} :
    r.mapError f = .ok a ↔ r = .ok a := by
  cases r with
  | error e =>
      constructor
      · intro h
        cases h
      · intro h
        cases h
  | ok a =>
      constructor
      · intro h
        cases h
        rfl
      · intro h
        cases h
        rfl

theorem mapError_eq_error_iff {r : Except ε α} {f : ε → ε'} {e : ε'} :
    r.mapError f = .error e ↔ ∃ e', r = .error e' ∧ f e' = e := by
  cases r with
  | error e' =>
      constructor
      · intro h
        cases h
        exact ⟨e', rfl, rfl⟩
      · rintro ⟨_, h, rfl⟩
        cases h
        rfl
  | ok a =>
      constructor
      · intro h
        cases h
      · rintro ⟨_, h, -⟩
        cases h

theorem exists_map_eq_ok_iff {r : Except ε α} {f : α → β} :
    (∃ b, r.map f = .ok b) ↔ ∃ a, r = .ok a := by
  cases r with
  | error e => simp [Except.map]
  | ok a => simp [Except.map]

theorem exists_mapError_eq_ok_iff {r : Except ε α} {f : ε → ε'} :
    (∃ a, r.mapError f = .ok a) ↔ ∃ a, r = .ok a := by
  simp only [mapError_eq_ok_iff]

theorem exists_bind_eq_ok_iff {r : Except ε α} {f : α → Except ε β} (h : ∀ a, ∃ b, f a = .ok b) :
    (∃ b, (r >>= f) = .ok b) ↔ ∃ a, r = .ok a := by
  simp only [bind_eq_ok_iff]
  constructor
  · rintro ⟨b, a, ha, -⟩
    exact ⟨a, ha⟩
  · rintro ⟨a, ha⟩
    obtain ⟨b, hb⟩ := h a
    exact ⟨b, a, ha, hb⟩

theorem exists_of_isOk {r : Except ε α} (h : r.isOk = true) : ∃ a, r = .ok a := by
  cases r with
  | error e => cases h
  | ok a => exact ⟨a, rfl⟩

theorem eq_error_of_ne_ok {r : Except ε α} (h : ∀ a, r ≠ .ok a) : ∃ e, r = .error e := by
  cases r with
  | error e => exact ⟨e, rfl⟩
  | ok a => exact absurd rfl (h a)

/-- A result that fails, if at all, with a failure of one kind. -/
def FailsOnly (kind : ε → Bool) (r : Except ε α) : Prop := ∀ e, r = .error e → kind e = true

theorem failsOnly_ok (kind : ε → Bool) (a : α) : FailsOnly kind (.ok a) := by
  intro e h
  cases h

theorem failsOnly_bind_iff {kind : ε → Bool} {r : Except ε α} {f : α → Except ε β} :
    FailsOnly kind (r >>= f) ↔ FailsOnly kind r ∧ ∀ a, r = .ok a → FailsOnly kind (f a) := by
  constructor
  · intro h
    exact ⟨fun e hr => h e (bind_eq_error_iff.mpr (Or.inl hr)),
      fun a ha e hf => h e (bind_eq_error_iff.mpr (Or.inr ⟨a, ha, hf⟩))⟩
  · rintro ⟨hr, hf⟩ e h
    rcases bind_eq_error_iff.mp h with h | ⟨a, ha, h⟩
    · exact hr e h
    · exact hf a ha e h

theorem failsOnly_map_iff {kind : ε → Bool} {r : Except ε α} {f : α → β} :
    FailsOnly kind (r.map f) ↔ FailsOnly kind r := by
  simp only [FailsOnly, map_eq_error_iff]

theorem FailsOnly.mono {kind kind' : ε → Bool} {r : Except ε α} (h : FailsOnly kind r)
    (hkind : ∀ e, kind e = true → kind' e = true) : FailsOnly kind' r :=
  fun e he => hkind e (h e he)

/-- A result without a failure of that kind fails only so if it does not fail. -/
theorem failsOnly_iff_exists {kind : ε → Bool} {r : Except ε α}
    (h : ∀ e, r = .error e → kind e = false) : FailsOnly kind r ↔ ∃ a, r = .ok a := by
  cases r with
  | error e => simp [FailsOnly, h e rfl]
  | ok a => exact iff_of_true (failsOnly_ok kind a) ⟨a, rfl⟩

/-! ### Runs of steps -/

theorem foldlM_cons_eq_ok_iff {f : β → α → Except ε β} {x y : β} {a : α} {l : List α} :
    (a :: l).foldlM f x = .ok y ↔ ∃ z, f x a = .ok z ∧ l.foldlM f z = .ok y := by
  rw [List.foldlM_cons, bind_eq_ok_iff]

/-- A run fails where a step fails for the first time. -/
theorem foldlM_eq_error_iff {f : β → α → Except ε β} {x : β} {l : List α} {e : ε} :
    l.foldlM f x = .error e ↔
      ∃ before a after y, l = before ++ a :: after ∧ before.foldlM f x = .ok y ∧
        f y a = .error e := by
  induction l generalizing x with
  | nil =>
      constructor
      · intro h
        cases h
      · rintro ⟨before, a, after, y, hsplit, -, -⟩
        simp at hsplit
  | cons b l ih =>
      rw [List.foldlM_cons, bind_eq_error_iff]
      constructor
      · rintro (h | ⟨z, hz, h⟩)
        · exact ⟨[], b, l, x, rfl, rfl, h⟩
        · obtain ⟨before, a, after, y, rfl, hrun, hfail⟩ := ih.mp h
          exact ⟨b :: before, a, after, y, rfl, foldlM_cons_eq_ok_iff.mpr ⟨z, hz, hrun⟩, hfail⟩
      · rintro ⟨before, a, after, y, hsplit, hrun, hfail⟩
        cases before with
        | nil =>
            cases hsplit
            cases hrun
            exact Or.inl hfail
        | cons c before =>
            cases hsplit
            obtain ⟨z, hz, hrun⟩ := foldlM_cons_eq_ok_iff.mp hrun
            exact Or.inr ⟨z, hz, ih.mpr ⟨before, a, after, y, rfl, hrun, hfail⟩⟩

/-- A run fails only as its steps do. -/
theorem failsOnly_foldlM {kind : ε → Bool} {f : β → α → Except ε β}
    (hstep : ∀ x a, FailsOnly kind (f x a)) (x : β) (l : List α) :
    FailsOnly kind (l.foldlM f x) := by
  intro e h
  obtain ⟨before, a, after, y, -, -, hfail⟩ := foldlM_eq_error_iff.mp h
  exact hstep y a e hfail

/-- What every step keeps, a whole run keeps. -/
theorem foldlM_invariant {f : β → α → Except ε β} {P : β → Prop} {x y : β} {l : List α}
    (hstep : ∀ x a y, P x → f x a = .ok y → P y) (hx : P x) (h : l.foldlM f x = .ok y) : P y := by
  induction l generalizing x with
  | nil =>
      cases h
      exact hx
  | cons a l ih =>
      obtain ⟨z, hz, h⟩ := foldlM_cons_eq_ok_iff.mp h
      exact ih (hstep x a z hx hz) h

/-! ### Independent parts -/

theorem exists_mapM_eq_ok_iff {f : α → Except ε β} {l : List α} :
    (∃ bs, l.mapM f = .ok bs) ↔ ∀ a ∈ l, ∃ b, f a = .ok b := by
  induction l with
  | nil =>
      constructor
      · rintro - a ha
        cases ha
      · intro _
        exact ⟨[], rfl⟩
  | cons a l ih =>
      rw [List.forall_mem_cons, ← ih, List.mapM_cons]
      constructor
      · rintro ⟨bs, h⟩
        obtain ⟨b, hb, h⟩ := bind_eq_ok_iff.mp h
        obtain ⟨bs', hbs', -⟩ := bind_eq_ok_iff.mp h
        exact ⟨⟨b, hb⟩, bs', hbs'⟩
      · rintro ⟨⟨b, hb⟩, bs, hbs⟩
        exact ⟨b :: bs, bind_eq_ok_iff.mpr ⟨b, hb, bind_eq_ok_iff.mpr ⟨bs, hbs, rfl⟩⟩⟩

/-- The first part that fails decides the failure. -/
theorem mapM_eq_error_iff {f : α → Except ε β} {l : List α} {e : ε} :
    l.mapM f = .error e ↔ ∃ before a after, l = before ++ a :: after ∧ f a = .error e ∧
      ∀ a' ∈ before, ∃ b, f a' = .ok b := by
  induction l with
  | nil =>
      constructor
      · intro h
        cases h
      · rintro ⟨before, a, after, hl, -⟩
        exact absurd hl.symm (List.append_ne_nil_of_right_ne_nil _ (List.cons_ne_nil _ _))
  | cons a l ih =>
      rw [List.mapM_cons, bind_eq_error_iff]
      constructor
      · rintro (ha | ⟨b, hb, h⟩)
        · exact ⟨[], a, l, rfl, ha, by simp⟩
        · rcases bind_eq_error_iff.mp h with h | ⟨bs, -, h⟩
          · obtain ⟨before, a', after, rfl, ha', hbefore⟩ := ih.mp h
            exact ⟨a :: before, a', after, rfl, ha', List.forall_mem_cons.mpr ⟨⟨b, hb⟩, hbefore⟩⟩
          · cases h
      · rintro ⟨before, a', after, hl, ha', hbefore⟩
        cases before with
        | nil =>
            cases hl
            exact Or.inl ha'
        | cons a'' before =>
            cases hl
            obtain ⟨⟨b, hb⟩, hbefore⟩ := List.forall_mem_cons.mp hbefore
            have hrest := ih.mpr ⟨before, a', after, rfl, ha', hbefore⟩
            exact Or.inr ⟨b, hb, bind_eq_error_iff.mpr (Or.inl hrest)⟩

theorem exists_of_mapM_eq_error {f : α → Except ε β} {l : List α} {e : ε}
    (h : l.mapM f = .error e) : ∃ a ∈ l, f a = .error e := by
  obtain ⟨before, a, after, rfl, ha, -⟩ := mapM_eq_error_iff.mp h
  exact ⟨a, List.mem_append_right _ List.mem_cons_self, ha⟩

theorem forM_eq_ok_iff {f : α → Except ε Unit} {l : List α} :
    l.forM f = .ok () ↔ ∀ a ∈ l, f a = .ok () := by
  induction l with
  | nil => exact iff_of_true rfl (by simp)
  | cons a l ih =>
      rw [List.forall_mem_cons, ← ih]
      show (f a >>= fun _ => l.forM f) = .ok () ↔ _
      rw [bind_eq_ok_iff]
      constructor
      · rintro ⟨_, ha, hl⟩
        exact ⟨ha, hl⟩
      · rintro ⟨ha, hl⟩
        exact ⟨(), ha, hl⟩

/-- Parts without a result are a run in which nothing is handed on. -/
theorem forM_eq_foldlM (f : α → Except ε Unit) (l : List α) :
    l.forM f = l.foldlM (fun _ a => f a) () := by
  induction l with
  | nil => rfl
  | cons a l ih =>
      show (f a >>= fun _ => l.forM f) = _
      rw [List.foldlM_cons, ih]

/-- The first part that fails decides the failure. -/
theorem forM_eq_error_iff {f : α → Except ε Unit} {l : List α} {e : ε} :
    l.forM f = .error e ↔ ∃ before a after, l = before ++ a :: after ∧ f a = .error e ∧
      ∀ a' ∈ before, f a' = .ok () := by
  simp only [forM_eq_foldlM, foldlM_eq_error_iff, ← forM_eq_ok_iff]
  constructor
  · rintro ⟨before, a, after, ⟨⟩, hl, hrun, hfail⟩
    exact ⟨before, a, after, hl, hfail, hrun⟩
  · rintro ⟨before, a, after, hl, hfail, hrun⟩
    exact ⟨before, a, after, (), hl, hrun, hfail⟩

theorem mapM_eq_none_iff {f : α → Option β} {l : List α} :
    l.mapM f = none ↔ ∃ a ∈ l, f a = none := by
  induction l with
  | nil => simp
  | cons a l ih =>
      rw [List.mapM_cons]
      cases hb : f a with
      | none => simp [hb]
      | some b =>
          have hcons : (∃ a' ∈ a :: l, f a' = none) ↔ l.mapM f = none := by
            rw [ih]
            simp [hb]
          rw [hcons]
          cases l.mapM f with
          | none => simp
          | some bs => simp

end WikiDates.Results
