import Mathlib.Data.List.Induction
import WikiDates.Options.Basic
import WikiDates.Proofs.Results

/-!
# Options in any order

    tokens ──Kind.ofToken──▶ kinds ──lastOf──▶ one token of each kind ──readToken──▶ Options

The kind of an option shows in the first characters of its token. Options that are read hold, of each
kind, what the last token of that kind says (`Options.get_of_ofTokens`), and they are read exactly if
every token is an option on its own (`Options.exists_ofTokens_iff`). So tokens of different kinds may
change places, and a token in front of another one of its kind may be left out: `ofTokens_of_lastOf`
covers both. `Options.tokens_in_any_order` states the whole.
-/

namespace WikiDates

open Results

/-- Whether a failure is the fault of the text of an option. -/
def Failure.isOptionFault : Failure → Bool
  | unknownUnit _ | invalidPattern .. => true
  | _ => false

theorem Failure.isOptionFault_iff {failure : Failure} :
    failure.isOptionFault = true ↔
      (∃ e, failure = .unknownUnit e) ∨ ∃ pattern fault, failure = .invalidPattern pattern fault := by
  cases failure <;> simp [isOptionFault]

namespace Options

/-! ### Kinds of options -/

/-- The kinds of options. -/
inductive Kind where
  /-- Showing the time. -/
  | time
  /-- An explicit format. -/
  | format
  /-- Amounts to add. -/
  | offset
  /-- Units to set. -/
  | override
  deriving DecidableEq, Repr

/-- The kind of a token. Of the tokens that start with a minus sign, `-t` shows the time and those
that go on with `f` give a format. -/
def Kind.ofToken (token : String) : Kind :=
  if token.toList = ['-', 't'] then .time
  else if ['-', 'f'] <+: token.toList then .format
  else if ['+'] <+: token.toList ∨ ['-'] <+: token.toList then .offset
  else .override

/-- The kind of an option. -/
def Entry.kind : Entry → Kind
  | .time => .time
  | .format _ => .format
  | .offset _ => .offset
  | .override _ => .override

/-- What the options of one kind ask for. -/
def get (o : Options) : Kind → Option Entry
  | .time => if o.showTime then some .time else none
  | .format => o.format.map .format
  | .offset => o.offset.map .offset
  | .override => o.override.map .override

variable {o o' : Options} {t : String} {ts ts' : List String} {k : Kind}

theorem get_default (k : Kind) : ({} : Options).get k = none := by
  cases k <;> rfl

/-- Options are told apart by what they ask for. -/
theorem ext_get (h : ∀ k, o.get k = o'.get k) : o = o' := by
  obtain ⟨showTime, format, offset, override⟩ := o
  obtain ⟨showTime', format', offset', override'⟩ := o'
  have htime : showTime = showTime' := by
    have := h .time
    cases showTime <;> cases showTime' <;> simp_all [get]
  have hformat : format = format' :=
    Option.map_injective (fun _ _ => Entry.format.inj) (h .format)
  have hoffset : offset = offset' :=
    Option.map_injective (fun _ _ => Entry.offset.inj) (h .offset)
  have hoverride : override = override' :=
    Option.map_injective (fun _ _ => Entry.override.inj) (h .override)
  rw [htime, hformat, hoffset, hoverride]

/-- An option replaces what was asked for of its kind, and nothing else. -/
theorem get_set (o : Options) (entry : Entry) (k : Kind) :
    (o.set entry).get k = if entry.kind = k then some entry else o.get k := by
  cases entry <;> cases k <;> rfl

/-! ### Single tokens -/

theorem failsOnly_readExpression (cs : List Char) :
    FailsOnly Failure.isOptionFault (readExpression cs) := by
  intro failure h
  obtain ⟨e, -, rfl⟩ := mapError_eq_error_iff.mp h
  rfl

theorem failsOnly_readFormat (cs : List Char) :
    FailsOnly Failure.isOptionFault (readFormat cs) := by
  intro failure h
  unfold readFormat at h
  dsimp only at h
  split at h
  · cases h
  · cases h
    rfl

theorem failsOnly_readToken (token : List Char) :
    FailsOnly Failure.isOptionFault (readToken token) := by
  unfold readToken
  split
  · exact failsOnly_ok _ _
  · exact failsOnly_map_iff.mpr (failsOnly_readFormat _)
  · exact failsOnly_map_iff.mpr (failsOnly_readExpression _)
  · exact failsOnly_map_iff.mpr (failsOnly_readExpression _)
  · exact failsOnly_map_iff.mpr (failsOnly_readExpression _)

/-- What a token is read as is of the kind of the token. -/
theorem kind_of_readToken {entry : Entry} (h : readToken t.toList = .ok entry) :
    entry.kind = .ofToken t := by
  unfold Kind.ofToken
  generalize t.toList = cs at h
  unfold readToken at h
  split at h
  · cases h
    rfl
  · obtain ⟨_, -, rfl⟩ := map_eq_ok_iff.mp h
    simp [Entry.kind]
  · next rest htime hformat =>
      obtain ⟨_, -, rfl⟩ := map_eq_ok_iff.mp h
      have hprefix : ¬ ['-', 'f'] <+: '-' :: rest := by
        rintro ⟨u, hu⟩
        cases hu
        exact hformat u rfl
      rw [if_neg (by simpa using htime), if_neg hprefix, if_pos (by simp)]
      rfl
  · obtain ⟨_, -, rfl⟩ := map_eq_ok_iff.mp h
    simp [Entry.kind]
  · next htime hformat hminus hplus =>
      obtain ⟨_, -, rfl⟩ := map_eq_ok_iff.mp h
      have hprefix : ¬ ['-', 'f'] <+: cs := by
        rintro ⟨u, rfl⟩
        exact hformat u rfl
      have hsign : ¬ (['+'] <+: cs ∨ ['-'] <+: cs) := by
        rintro (⟨u, rfl⟩ | ⟨u, rfl⟩)
        · exact hplus u rfl
        · exact hminus u rfl
      rw [if_neg htime, if_neg hprefix, if_neg hsign]
      rfl

/-- Only `-t` itself shows the time. -/
example : Kind.ofToken "-tx" = .offset := by decide

/-! ### The last token of a kind -/

/-- The last token of a kind. -/
def lastOf (k : Kind) (ts : List String) : Option String :=
  (ts.filter (Kind.ofToken · = k)).getLast?

/-- What a token is read as, if it is an option. -/
def entry? (t : String) : Option Entry := (readToken t.toList).toOption

theorem lastOf_concat :
    lastOf k (ts ++ [t]) = if Kind.ofToken t = k then some t else lastOf k ts := by
  unfold lastOf
  rw [List.filter_append]
  by_cases h : Kind.ofToken t = k
  · simp [h]
  · simp [h]

theorem lastOf_cons :
    lastOf k (t :: ts) = (lastOf k ts).or (if Kind.ofToken t = k then some t else none) := by
  unfold lastOf
  by_cases h : Kind.ofToken t = k
  · rw [List.filter_cons_of_pos (by simpa using h), List.getLast?_cons, if_pos h]
    cases (ts.filter (Kind.ofToken · = k)).getLast? <;> rfl
  · rw [List.filter_cons_of_neg (by simpa using h), if_neg h, Option.or_none]

theorem exists_lastOf (h : ∃ t ∈ ts, Kind.ofToken t = k) : ∃ t, lastOf k ts = some t := by
  obtain ⟨t, ht, hk⟩ := h
  have hmem : t ∈ ts.filter (Kind.ofToken · = k) := List.mem_filter.mpr ⟨ht, by simpa using hk⟩
  exact ⟨_, List.getLast?_eq_some_getLast (List.ne_nil_of_mem hmem)⟩

/-! ### Reading tokens -/

theorem ofTokens_concat_eq_ok_iff :
    ofTokens (ts ++ [t]) = .ok o ↔
      ∃ before entry, ofTokens ts = .ok before ∧ readToken t.toList = .ok entry ∧
        before.set entry = o := by
  unfold ofTokens
  rw [List.foldlM_append, bind_eq_ok_iff]
  simp only [foldlM_cons_eq_ok_iff, map_eq_ok_iff]
  constructor
  · rintro ⟨before, hbefore, _, ⟨entry, hentry, rfl⟩, ⟨⟩⟩
    exact ⟨before, entry, hbefore, hentry, rfl⟩
  · rintro ⟨before, entry, hbefore, hentry, rfl⟩
    exact ⟨before, hbefore, _, ⟨entry, hentry, rfl⟩, rfl⟩

/-- Tokens are read exactly if every one of them is an option. -/
theorem exists_ofTokens_iff :
    (∃ o, ofTokens ts = .ok o) ↔ ∀ t ∈ ts, ∃ entry, readToken t.toList = .ok entry := by
  induction ts using List.reverseRecOn with
  | nil => exact iff_of_true ⟨{}, rfl⟩ (by simp)
  | append_singleton ts t ih =>
      rw [List.forall_mem_append, List.forall_mem_singleton, ← ih]
      simp only [ofTokens_concat_eq_ok_iff]
      constructor
      · rintro ⟨_, before, entry, hbefore, hentry, -⟩
        exact ⟨⟨before, hbefore⟩, entry, hentry⟩
      · rintro ⟨⟨before, hbefore⟩, entry, hentry⟩
        exact ⟨_, before, entry, hbefore, hentry, rfl⟩

/-- What tokens ask for of a kind is what the last token of that kind says. -/
theorem get_of_ofTokens (h : ofTokens ts = .ok o) (k : Kind) :
    o.get k = (lastOf k ts).bind entry? := by
  induction ts using List.reverseRecOn generalizing o with
  | nil =>
      cases h
      exact get_default k
  | append_singleton ts t ih =>
      obtain ⟨before, entry, hbefore, hentry, rfl⟩ := ofTokens_concat_eq_ok_iff.mp h
      rw [get_set, kind_of_readToken hentry, lastOf_concat]
      by_cases hk : Kind.ofToken t = k
      · rw [if_pos hk, if_pos hk, Option.bind_some, entry?, hentry]
        rfl
      · rw [if_neg hk, if_neg hk]
        exact ih hbefore

/-- Options depend on the last token of each kind only, as long as all tokens are options. -/
theorem ofTokens_of_lastOf (hmem : ∀ t ∈ ts', t ∈ ts) (hlast : ∀ k, lastOf k ts' = lastOf k ts)
    (h : ofTokens ts = .ok o) : ofTokens ts' = .ok o := by
  have hread := exists_ofTokens_iff.mp ⟨o, h⟩
  obtain ⟨o', h'⟩ := exists_ofTokens_iff.mpr fun t ht => hread t (hmem t ht)
  have same : o' = o := ext_get fun k => by
    rw [get_of_ofTokens h', get_of_ofTokens h, hlast]
  exact same ▸ h'

/-! ### Other orders, fewer tokens -/

/-- The tokens of each kind are the same and stand in the same order; tokens of different kinds may
have changed places. -/
def IsReordering (ts' ts : List String) : Prop :=
  ∀ k, ts'.filter (Kind.ofToken · = k) = ts.filter (Kind.ofToken · = k)

/-- Nothing is lost or added when tokens are put into another order. -/
theorem IsReordering.perm (h : IsReordering ts' ts) : ts'.Perm ts := by
  rw [List.perm_iff_count]
  intro t
  have hcount := congrArg (List.count t) (h (.ofToken t))
  rwa [List.count_filter (by simp), List.count_filter (by simp)] at hcount

theorem IsReordering.symm (h : IsReordering ts' ts) : IsReordering ts ts' := fun k => (h k).symm

theorem IsReordering.ofTokens_eq_ok (h : IsReordering ts' ts) (ho : ofTokens ts = .ok o) :
    ofTokens ts' = .ok o :=
  ofTokens_of_lastOf (fun _ ht => h.perm.mem_iff.mp ht)
    (fun k => congrArg List.getLast? (h k)) ho

/-- The tokens that no later token of their kind replaces. -/
def withoutReplaced : List String → List String
  | [] => []
  | t :: ts =>
    if ∃ t' ∈ ts, Kind.ofToken t' = Kind.ofToken t then withoutReplaced ts
    else t :: withoutReplaced ts

theorem mem_of_mem_withoutReplaced (h : t ∈ withoutReplaced ts) : t ∈ ts := by
  induction ts with
  | nil => exact h
  | cons t' ts ih =>
      unfold withoutReplaced at h
      split at h
      · exact List.mem_cons_of_mem t' (ih h)
      · rcases List.mem_cons.mp h with rfl | h
        · exact List.mem_cons_self
        · exact List.mem_cons_of_mem t' (ih h)

/-- The last token of a kind is not replaced. -/
theorem lastOf_withoutReplaced (k : Kind) (ts : List String) :
    lastOf k (withoutReplaced ts) = lastOf k ts := by
  induction ts with
  | nil => rfl
  | cons t ts ih =>
      unfold withoutReplaced
      split
      · next hlater =>
          rw [ih, lastOf_cons]
          by_cases hk : Kind.ofToken t = k
          · obtain ⟨t', ht'⟩ := exists_lastOf (hk ▸ hlater)
            rw [ht', Option.some_or]
          · rw [if_neg hk, Option.or_none]
      · rw [lastOf_cons, lastOf_cons, ih]

/-! ### Failures -/

theorem exists_ofTokens_singleton_iff :
    (∃ o, ofTokens [t] = .ok o) ↔ ∃ entry, readToken t.toList = .ok entry := by
  rw [exists_ofTokens_iff, List.forall_mem_singleton]

theorem ofTokens_singleton_eq_error_iff {failure : Failure} :
    ofTokens [t] = .error failure ↔ readToken t.toList = .error failure := by
  unfold ofTokens
  rw [List.foldlM_cons, bind_eq_error_iff, map_eq_error_iff]
  constructor
  · rintro (h | ⟨_, -, h⟩)
    · exact h
    · cases h
  · exact Or.inl

/-- The first token that is no option decides the failure. -/
theorem ofTokens_eq_error_iff {failure : Failure} :
    ofTokens ts = .error failure ↔
      ∃ before t after, ts = before ++ t :: after ∧
        (∀ t' ∈ before, ∃ o, ofTokens [t'] = .ok o) ∧ ofTokens [t] = .error failure := by
  simp only [exists_ofTokens_singleton_iff, ofTokens_singleton_eq_error_iff, ← exists_ofTokens_iff]
  unfold ofTokens
  simp only [foldlM_eq_error_iff, map_eq_error_iff]
  constructor
  · rintro ⟨before, t, after, o, hsplit, hbefore, ht⟩
    exact ⟨before, t, after, hsplit, ⟨o, hbefore⟩, ht⟩
  · rintro ⟨before, t, after, hsplit, ⟨o, hbefore⟩, ht⟩
    exact ⟨before, t, after, o, hsplit, hbefore, ht⟩

theorem exists_failure_iff :
    (∃ failure, ofTokens ts = .error failure) ↔
      ∃ t ∈ ts, ∃ failure, ofTokens [t] = .error failure := by
  constructor
  · rintro ⟨failure, h⟩
    obtain ⟨before, t, after, rfl, -, ht⟩ := ofTokens_eq_error_iff.mp h
    exact ⟨t, List.mem_append_right before List.mem_cons_self, failure, ht⟩
  · rintro ⟨t, ht, failure, h⟩
    refine eq_error_of_ne_ok fun o ho => ?_
    obtain ⟨entry, hentry⟩ := exists_ofTokens_iff.mp ⟨o, ho⟩ t ht
    rw [ofTokens_singleton_eq_error_iff, hentry] at h
    cases h

theorem failsOnly_ofTokens (ts : List String) :
    FailsOnly Failure.isOptionFault (ofTokens ts) := by
  refine failsOnly_foldlM ?_ _ _
  intro o token
  exact failsOnly_map_iff.mpr (failsOnly_readToken token.toList)

/-- **Options may come in any order.** The result does not depend on how tokens of different kinds
are mixed, nor on tokens that a later one of their kind replaces. Tokens fail exactly if one of them
fails on its own; the first of these decides the failure, which is an unknown unit or an invalid
pattern. -/
theorem tokens_in_any_order (ts : List String) :
    (∀ ts', IsReordering ts' ts → ∀ o, ofTokens ts' = .ok o ↔ ofTokens ts = .ok o) ∧
      (∀ o, ofTokens ts = .ok o → ofTokens (withoutReplaced ts) = .ok o) ∧
      ((∃ failure, ofTokens ts = .error failure) ↔
        ∃ t ∈ ts, ∃ failure, ofTokens [t] = .error failure) ∧
      ∀ failure,
        (ofTokens ts = .error failure ↔
          ∃ before t after, ts = before ++ t :: after ∧
            (∀ t' ∈ before, ∃ o, ofTokens [t'] = .ok o) ∧ ofTokens [t] = .error failure) ∧
        (ofTokens ts = .error failure →
          (∃ e, failure = .unknownUnit e) ∨
            ∃ pattern fault, failure = .invalidPattern pattern fault) := by
  refine ⟨?_, ?_, exists_failure_iff, fun failure => ⟨ofTokens_eq_error_iff, ?_⟩⟩
  · intro ts' h o
    exact ⟨h.symm.ofTokens_eq_ok, h.ofTokens_eq_ok⟩
  · intro o ho
    exact ofTokens_of_lastOf (fun _ => mem_of_mem_withoutReplaced)
      (fun k => lastOf_withoutReplaced k ts) ho
  · intro h
    exact Failure.isOptionFault_iff.mp (failsOnly_ofTokens ts failure h)

end Options
end WikiDates
