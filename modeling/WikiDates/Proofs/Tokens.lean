import Mathlib.Data.List.Forall2
import WikiDates.Proofs.Pieces

/-!
# Tokens and the texts they come from

    text ──trim──▶ trimmed text ──pieces──▶ words ──mend──▶ tokens

A token is made of one piece, or of two if the first holds a double quote and another one follows.
So the pieces fall into groups, in order and without a rest: `IsGrouped` says which groups these are,
and `Options.mend_flatten` that mending joins each of them with a space.
`Options.tokens_group_pieces` states this of a whole text.

The tokens of a text tell it up to blanks. `Options.AreTokens` says which lists are the tokens of
some text, `Options.Written` which texts have given tokens, and both are combined in

    tokenize_eq_iff : tokenize (some raw) = ts ↔ AreTokens ts ∧ Written ts raw
-/

namespace WikiDates.Options

open Text

/-! ### Groups of pieces -/

/-- Groups of one piece or two. A piece that holds a double quote is grouped with the piece behind it,
if there is one. -/
inductive IsGrouped : List (List (List Char)) → Prop where
  | nil : IsGrouped []
  | single {p : List Char} {gs : List (List (List Char))} (hquote : '"' ∈ p → gs = [])
      (hrest : IsGrouped gs) : IsGrouped ([p] :: gs)
  | pair {p : List Char} (q : List Char) {gs : List (List (List Char))} (hquote : '"' ∈ p)
      (hrest : IsGrouped gs) : IsGrouped ([p, q] :: gs)

variable {ps ts ss : List (List Char)} {gs : List (List (List Char))} {cs body : List Char}

theorem intercalate_pair (p q : List Char) : [' '].intercalate [p, q] = p ++ ' ' :: q := by
  rw [List.intercalate_cons_cons, List.intercalate_singleton, List.append_assoc,
    List.singleton_append]

/-- Mending joins the pieces of each group with a space. -/
theorem mend_flatten (h : IsGrouped gs) : mend gs.flatten = gs.map [' '].intercalate := by
  induction h with
  | nil => rfl
  | @single p gs hquote hrest ih =>
      rw [List.flatten_cons, List.singleton_append, List.map_cons, List.intercalate_singleton, ← ih]
      cases hpieces : gs.flatten with
      | nil => rfl
      | cons q rest =>
          have hplain : '"' ∉ p := by
            intro hmem
            rw [hquote hmem] at hpieces
            cases hpieces
          rw [mend, if_neg (by simpa using hplain)]
  | @pair p q gs hquote hrest ih =>
      rw [List.flatten_cons, List.map_cons, ← ih]
      show mend (p :: q :: gs.flatten) = _
      rw [mend, if_pos (by simpa using hquote), intercalate_pair]

/-- All pieces can be grouped, from the left. -/
theorem exists_isGrouped (ps : List (List Char)) : ∃ gs, IsGrouped gs ∧ gs.flatten = ps := by
  fun_induction mend ps with
  | case1 p q rest hquote ih =>
      obtain ⟨gs, hgs, rfl⟩ := ih
      exact ⟨[p, q] :: gs, .pair q (by simpa using hquote) hgs, rfl⟩
  | case2 p q rest hquote ih =>
      obtain ⟨gs, hgs, hflatten⟩ := ih
      exact ⟨[p] :: gs, .single (fun hmem => absurd hmem (by simpa using hquote)) hgs,
        congrArg (p :: ·) hflatten⟩
  | case3 rest hshort =>
      match rest with
      | [] => exact ⟨[], .nil, rfl⟩
      | [p] => exact ⟨[[p]], .single (fun _ => rfl) .nil, rfl⟩
      | p :: q :: rest => exact absurd rfl (hshort p q rest)

theorem IsGrouped.eq_of_mem (h : IsGrouped gs) :
    ∀ g ∈ gs, (∃ p, g = [p]) ∨ ∃ p q, g = [p, q] ∧ '"' ∈ p := by
  induction h with
  | nil => simp
  | single _ _ ih => exact List.forall_mem_cons.mpr ⟨Or.inl ⟨_, rfl⟩, ih⟩
  | pair _ hquote _ ih => exact List.forall_mem_cons.mpr ⟨Or.inr ⟨_, _, rfl, hquote⟩, ih⟩

theorem IsGrouped.ne_nil_of_mem (h : IsGrouped gs) : ∀ g ∈ gs, g ≠ [] := by
  intro g hg
  rcases h.eq_of_mem g hg with ⟨p, rfl⟩ | ⟨p, q, rfl, -⟩
  · exact List.cons_ne_nil p []
  · exact List.cons_ne_nil p [q]

/-- A group has a second piece exactly if its first one holds a double quote and is not the last
piece of all. -/
theorem IsGrouped.pair_iff (h : IsGrouped gs) {before after : List (List (List Char))}
    {p : List Char} {rest : List (List Char)} (hsplit : gs = before ++ (p :: rest) :: after) :
    rest ≠ [] ↔ '"' ∈ p ∧ rest ++ after.flatten ≠ [] := by
  induction h generalizing before with
  | nil => simp at hsplit
  | @single p' gs hquote hrest ih =>
      cases before with
      | nil =>
          cases hsplit
          refine iff_of_false (fun h => h rfl) ?_
          rintro ⟨hmem, hmore⟩
          rw [hquote hmem] at hmore
          exact hmore rfl
      | cons g before => exact ih (List.cons.inj hsplit).2
  | @pair p' q gs hquote hrest ih =>
      cases before with
      | nil =>
          cases hsplit
          exact iff_of_true (List.cons_ne_nil q []) ⟨hquote, List.cons_ne_nil q _⟩
      | cons g before => exact ih (List.cons.inj hsplit).2

/-! ### Joining with single spaces -/

theorem intercalate_append {qs : List (List Char)} (hps : ps ≠ []) (hqs : qs ≠ []) :
    [' '].intercalate (ps ++ qs) = [' '].intercalate ps ++ [' '] ++ [' '].intercalate qs := by
  induction ps with
  | nil => exact absurd rfl hps
  | cons p ps ih =>
      rw [List.cons_append,
        List.intercalate_cons_of_ne_nil (List.append_ne_nil_of_right_ne_nil ps hqs)]
      by_cases hne : ps = []
      · rw [hne, List.nil_append, List.intercalate_singleton]
      · rw [ih hne, List.intercalate_cons_of_ne_nil hne]
        simp only [List.append_assoc]

/-- Joining what was joined in groups joins all of it. -/
theorem intercalate_map_intercalate (h : ∀ g ∈ gs, g ≠ []) :
    [' '].intercalate (gs.map [' '].intercalate) = [' '].intercalate gs.flatten := by
  induction gs with
  | nil => rfl
  | cons g gs ih =>
      obtain ⟨hg, hgs⟩ := List.forall_mem_cons.mp h
      by_cases hne : gs = []
      · simp [hne]
      · rw [List.map_cons, List.intercalate_cons_of_ne_nil (by simpa using hne), ih hgs,
          List.flatten_cons, intercalate_append hg (flatten_ne_nil hgs hne)]

theorem spaced_intercalate (ps : List (List Char)) : Spaced ps ([' '].intercalate ps) := by
  induction ps with
  | nil => exact .nil
  | cons p ps ih =>
      by_cases hne : ps = []
      · rw [hne, List.intercalate_singleton]
        exact .single p
      · rw [List.intercalate_cons_of_ne_nil hne, List.append_assoc, spaced_cons_iff hne]
        exact ⟨[' '], _, rfl, List.cons_ne_nil ' ' [], List.forall_mem_singleton.mpr (by decide), ih⟩

/-! ### Words and tokens of a text -/

/-- The tokens of a text are the joined groups of the words that it consists of. -/
theorem tokenChars_eq (hgs : IsGrouped gs) (hcut : IsCut gs.flatten (trim cs)) :
    tokenChars cs = gs.map [' '].intercalate := by
  rw [tokenChars, hcut.pieces_eq, mend_flatten hgs]

/-- A text consists of words when it is trimmed, and they can be grouped. -/
theorem exists_groups (cs : List Char) : ∃ gs, IsGrouped gs ∧ IsCut gs.flatten (trim cs) := by
  obtain ⟨gs, hgs, hflatten⟩ := exists_isGrouped (pieces (trim cs))
  exact ⟨gs, hgs, hflatten ▸ isCut_pieces (isTrimmed_trim cs)⟩

theorem IsCut.ne_nil_of_mem (h : IsCut ps cs) : ∀ p ∈ ps, p ≠ [] := fun p hp => (h.words p hp).ne_nil

/-- The same words with single spaces between them are trimmed as well. -/
theorem IsCut.isTrimmed_intercalate (h : IsCut ps cs) (htrimmed : IsTrimmed cs) :
    IsTrimmed ([' '].intercalate ps) :=
  h.spaced.isTrimmed (spaced_intercalate ps) h.ne_nil_of_mem htrimmed

/-- Joined tokens have the same tokens again. -/
theorem tokenChars_intercalate (cs : List Char) :
    tokenChars ([' '].intercalate (tokenChars cs)) = tokenChars cs := by
  obtain ⟨gs, hgs, hcut⟩ := exists_groups cs
  have htrimmed := hcut.isTrimmed_intercalate (isTrimmed_trim cs)
  rw [tokenChars_eq hgs hcut, intercalate_map_intercalate hgs.ne_nil_of_mem]
  refine tokenChars_eq hgs ?_
  rw [htrimmed.trim_eq_self]
  exact ⟨hcut.words, spaced_intercalate gs.flatten⟩

theorem tokenize_some (raw : String) :
    tokenize (some raw) = (tokenChars raw.toList).map String.ofList := rfl

theorem toList_intercalate_tokenize (raw : String) :
    (" ".intercalate (tokenize (some raw))).toList = [' '].intercalate (tokenChars raw.toList) := by
  rw [String.toList_intercalate, tokenize_some, List.map_map]
  simp [Function.comp_def]

/-- **Tokens lose, repeat and reorder nothing.** The pieces of a text are the words that it consists
of when it is trimmed. They fall into groups, and each token is a group joined with a space: a single
piece, or two pieces if the first holds a double quote and is not the last piece of all. So joining
the tokens is joining the pieces, and the joined tokens have the same tokens. -/
theorem tokens_group_pieces (raw : String) :
    ∃ groups : List (List (List Char)),
      IsCut groups.flatten (trim raw.toList) ∧
      tokenize (some raw) = groups.map (fun g => String.ofList ([' '].intercalate g)) ∧
      (∀ g ∈ groups, g.length = 1 ∨ g.length = 2) ∧
      (∀ before p rest after, groups = before ++ (p :: rest) :: after →
        (rest ≠ [] ↔ '"' ∈ p ∧ rest ++ after.flatten ≠ [])) ∧
      " ".intercalate (tokenize (some raw)) =
        " ".intercalate (groups.flatten.map String.ofList) ∧
      tokenize (some (" ".intercalate (tokenize (some raw)))) = tokenize (some raw) := by
  obtain ⟨gs, hgs, hcut⟩ := exists_groups raw.toList
  have htokens := tokenChars_eq hgs hcut
  refine ⟨gs, hcut, ?_, ?_, ?_, ?_, ?_⟩
  · rw [tokenize_some, htokens, List.map_map]
    rfl
  · intro g hg
    rcases hgs.eq_of_mem g hg with ⟨p, rfl⟩ | ⟨p, q, rfl, -⟩
    · exact Or.inl rfl
    · exact Or.inr rfl
  · intro before p rest after hsplit
    exact hgs.pair_iff hsplit
  · rw [← String.toList_inj, toList_intercalate_tokenize, htokens,
      intercalate_map_intercalate hgs.ne_nil_of_mem, String.toList_intercalate]
    simp [Function.comp_def]
  · rw [tokenize_some, toList_intercalate_tokenize, tokenChars_intercalate, tokenize_some]

/-! ### Lists of tokens and their texts -/

/-- A word, or two words with a space between them of which the first holds a double quote. -/
def IsToken (t : List Char) : Prop :=
  IsWord t ∨ ∃ p q, t = p ++ ' ' :: q ∧ IsWord p ∧ IsWord q ∧ '"' ∈ p

/-- What the tokens of a text look like. Only the last of them may be a word with a double quote, since
any other one would be joined with the word behind it; and the text was trimmed at both ends. -/
structure AreTokens (ts : List (List Char)) : Prop where
  form : ∀ t ∈ ts, IsToken t
  unquoted : ∀ t ∈ ts.dropLast, IsWord t → '"' ∉ t
  front : ∀ t ∈ ts.head?, ∀ c ∈ t.head?, isBlank c = false
  back : ∀ t ∈ ts.getLast?, ∀ c ∈ t.getLast?, isBlank c = false

/-- A token as it may stand in a text: a word as it is, and two words with any run of separators for
the space between them. -/
inductive Stretched : List Char → List Char → Prop where
  | word {w : List Char} (hw : IsWord w) : Stretched w w
  | pair {p q gap : List Char} (hp : IsWord p) (hq : IsWord q) (hquote : '"' ∈ p) (hne : gap ≠ [])
      (hgap : ∀ c ∈ gap, isSeparator c = true) : Stretched (p ++ ' ' :: q) (p ++ (gap ++ q))

/-- The text consists of the tokens, each as it may stand in a text, with runs of separators between
them and blanks around them. -/
def Written (ts : List (List Char)) (cs : List Char) : Prop :=
  ∃ ss left body right, List.Forall₂ Stretched ts ss ∧ Spaced ss body ∧
    cs = left ++ (body ++ right) ∧ (∀ c ∈ left, isBlank c = true) ∧ ∀ c ∈ right, isBlank c = true

/-- A word with a double quote is the last token, for it is grouped with any word behind it. -/
theorem IsGrouped.unquoted (h : IsGrouped gs) (hwords : ∀ p ∈ gs.flatten, IsWord p) :
    ∀ t ∈ (gs.map [' '].intercalate).dropLast, IsWord t → '"' ∉ t := by
  induction h with
  | nil => simp
  | @single p gs hquote hrest ih =>
      by_cases hne : gs = []
      · simp [hne]
      · rw [List.map_cons, List.dropLast_cons_of_ne_nil (by simpa using hne), List.forall_mem_cons,
          List.intercalate_singleton]
        exact ⟨fun _ hmem => hne (hquote hmem),
          ih fun q hq => hwords q (List.mem_cons_of_mem p hq)⟩
  | @pair p q gs hquote hrest ih =>
      by_cases hne : gs = []
      · simp [hne]
      · rw [List.map_cons, List.dropLast_cons_of_ne_nil (by simpa using hne), List.forall_mem_cons,
          intercalate_pair]
        refine ⟨fun hword => ?_, ih fun r hr => hwords r (by simp [hr])⟩
        have hspace := hword.unbroken ' ' (by simp)
        exact absurd hspace (by decide)

theorem IsToken.ne_nil {t : List Char} (h : IsToken t) : t ≠ [] := by
  rcases h with hword | ⟨p, q, rfl, -⟩
  · exact hword.ne_nil
  · exact List.append_ne_nil_of_right_ne_nil p (List.cons_ne_nil ' ' q)

/-- The tokens of a text look like tokens. -/
theorem IsGrouped.areTokens (h : IsGrouped gs) (hcut : IsCut gs.flatten body)
    (htrimmed : IsTrimmed body) : AreTokens (gs.map [' '].intercalate) := by
  have hform : ∀ t ∈ gs.map [' '].intercalate, IsToken t := by
    rw [List.forall_mem_map]
    intro g hg
    have hwords : ∀ p ∈ g, IsWord p := fun p hp => hcut.words p (List.mem_flatten_of_mem hg hp)
    rcases h.eq_of_mem g hg with ⟨p, rfl⟩ | ⟨p, q, rfl, hquote⟩
    · rw [List.intercalate_singleton]
      exact Or.inl (hwords p (by simp))
    · exact Or.inr ⟨p, q, intercalate_pair p q, hwords p (by simp), hwords q (by simp), hquote⟩
  have hjoined := hcut.isTrimmed_intercalate htrimmed
  rw [← intercalate_map_intercalate h.ne_nil_of_mem,
    (spaced_intercalate _).isTrimmed_iff fun t ht => (hform t ht).ne_nil] at hjoined
  exact ⟨hform, h.unquoted hcut.words, hjoined.1, hjoined.2⟩

/-- Texts of the words of each group are texts of its token. -/
theorem IsGrouped.stretched (h : IsGrouped gs) (hwords : ∀ p ∈ gs.flatten, IsWord p)
    (hss : List.Forall₂ Spaced gs ss) :
    List.Forall₂ Stretched (gs.map [' '].intercalate) ss := by
  induction h generalizing ss with
  | nil =>
      cases hss
      exact .nil
  | @single p gs hquote hrest ih =>
      rw [List.flatten_cons, List.forall_mem_append] at hwords
      cases hss with
      | cons hs hss =>
          cases hs
          rw [List.map_cons, List.intercalate_singleton]
          exact .cons (.word (hwords.1 _ List.mem_cons_self)) (ih hwords.2 hss)
  | @pair p q gs hquote hrest ih =>
      rw [List.flatten_cons, List.forall_mem_append] at hwords
      cases hss with
      | cons hs hss =>
          obtain ⟨gap, s, rfl, hne, hgap, hs⟩ := (spaced_cons_iff (List.cons_ne_nil q [])).mp hs
          cases hs
          rw [List.map_cons, intercalate_pair]
          exact .cons (.pair (hwords.1 p (by simp)) (hwords.1 q (by simp)) hquote hne hgap)
            (ih hwords.2 hss)

/-- Texts of tokens are texts of their words, which are grouped. -/
theorem exists_groups_of_stretched (hts : List.Forall₂ Stretched ts ss)
    (hlast : ∀ t ∈ ts.dropLast, IsWord t → '"' ∉ t) :
    ∃ gs, IsGrouped gs ∧ (∀ p ∈ gs.flatten, IsWord p) ∧ gs.map [' '].intercalate = ts ∧
      List.Forall₂ Spaced gs ss := by
  induction hts with
  | nil => exact ⟨[], .nil, by simp, rfl, .nil⟩
  | @cons t s ts ss ht hts ih =>
      have hinner : ts ≠ [] → ∀ u ∈ t :: ts.dropLast, IsWord u → '"' ∉ u := by
        intro hne
        rw [← List.dropLast_cons_of_ne_nil hne]
        exact hlast
      obtain ⟨gs, hgs, hwords, rfl, hss⟩ := ih fun u hu =>
        hinner (List.ne_nil_of_mem (List.dropLast_subset ts hu)) u (List.mem_cons_of_mem t hu)
      cases ht with
      | word hw =>
          refine ⟨[t] :: gs, .single (fun hquote => ?_) hgs, List.forall_mem_cons.mpr ⟨hw, hwords⟩,
            by rw [List.map_cons, List.intercalate_singleton], .cons (.single t) hss⟩
          by_contra hne
          exact hinner (by simpa using hne) t List.mem_cons_self hw hquote
      | @pair p q gap hp hq hquote hne hgap =>
          exact ⟨[p, q] :: gs, .pair q hquote hgs,
            List.forall_mem_cons.mpr ⟨hp, List.forall_mem_cons.mpr ⟨hq, hwords⟩⟩,
            by rw [List.map_cons, intercalate_pair], .cons (.cons hne hgap (.single q)) hss⟩

/-- A text has given tokens exactly if they look like tokens and are written in the text. -/
theorem tokenChars_eq_iff : tokenChars cs = ts ↔ AreTokens ts ∧ Written ts cs := by
  constructor
  · rintro rfl
    obtain ⟨gs, hgs, hcut⟩ := exists_groups cs
    obtain ⟨left, right, hcs, hleft, hright⟩ := exists_trim cs
    obtain ⟨ss, hss, hbody⟩ := (spaced_flatten_iff hgs.ne_nil_of_mem).mp hcut.spaced
    rw [tokenChars_eq hgs hcut]
    exact ⟨hgs.areTokens hcut (isTrimmed_trim cs), ss, left, trim cs, right,
      hgs.stretched hcut.words hss, hbody, hcs, hleft, hright⟩
  · rintro ⟨hts, ss, left, body, right, hss, hbody, rfl, hleft, hright⟩
    obtain ⟨gs, hgs, hwords, rfl, hgss⟩ := exists_groups_of_stretched hss hts.unquoted
    have hcut : IsCut gs.flatten body :=
      ⟨hwords, (spaced_flatten_iff hgs.ne_nil_of_mem).mpr ⟨ss, hgss, hbody⟩⟩
    have hjoined : IsTrimmed ([' '].intercalate gs.flatten) := by
      rw [← intercalate_map_intercalate hgs.ne_nil_of_mem,
        (spaced_intercalate _).isTrimmed_iff fun t ht => (hts.form t ht).ne_nil]
      exact ⟨hts.front, hts.back⟩
    have htrimmed := (spaced_intercalate gs.flatten).isTrimmed hcut.spaced hcut.ne_nil_of_mem hjoined
    refine tokenChars_eq hgs ?_
    rwa [htrimmed.trim_eq hleft hright]

/-- Single spaces between tokens and within them make up a text. -/
theorem AreTokens.written (h : AreTokens ts) : Written ts ([' '].intercalate ts) := by
  have hspace : ∀ c ∈ [' '], isSeparator c = true := List.forall_mem_singleton.mpr (by decide)
  refine ⟨ts, [], _, [], List.forall₂_same.mpr fun t ht => ?_, spaced_intercalate ts, by simp,
    by simp, by simp⟩
  rcases h.form t ht with hword | ⟨p, q, rfl, hp, hq, hquote⟩
  · exact .word hword
  · exact .pair hp hq hquote (List.cons_ne_nil ' ' []) hspace

/-- **The tokens of texts.** A list is what some text is split into exactly if it looks like tokens,
and then it is what all texts are split into in which it is written, with whatever separators between
the words and whatever blanks around them, and no others. -/
theorem tokens_of_written_text (ts : List String) :
    ((∃ raw, tokenize (some raw) = ts) ↔ AreTokens (ts.map String.toList)) ∧
      ∀ raw : String, tokenize (some raw) = ts ↔
        AreTokens (ts.map String.toList) ∧ Written (ts.map String.toList) raw.toList := by
  have heq : ∀ raw : String, tokenize (some raw) = ts ↔
      AreTokens (ts.map String.toList) ∧ Written (ts.map String.toList) raw.toList := by
    intro raw
    rw [← tokenChars_eq_iff, tokenize_some]
    constructor
    · rintro rfl
      simp [Function.comp_def]
    · intro h
      simp [h, Function.comp_def]
  refine ⟨⟨?_, fun h => ?_⟩, heq⟩
  · rintro ⟨raw, hraw⟩
    exact ((heq raw).mp hraw).1
  · refine ⟨String.ofList ([' '].intercalate (ts.map String.toList)), (heq _).mpr ⟨h, ?_⟩⟩
    rw [String.toList_ofList]
    exact h.written

end WikiDates.Options
