import Mathlib.Data.List.DropRight
import WikiDates.Proofs.OptionText

/-!
# Trimmed texts and their pieces

    text ──trim──▶ trimmed text ──pieces──▶ words

Both stages are functions, and what leads back from them is a relation with many results: blanks may
stand around a trimmed text (`Text.trim_eq_iff`), and any run of separators between two pieces
(`Options.IsCut`). Every trimmed text is cut in one way only, `Options.isCut_pieces` and
`Options.IsCut.pieces_eq`, so the pieces are the maximal runs without separators.
-/

namespace WikiDates

/-! ### Trimmed texts -/

namespace Text

/-- No blank stands at an end of the text. -/
structure IsTrimmed (cs : List Char) : Prop where
  front : ∀ c ∈ cs.head?, isBlank c = false
  back : ∀ c ∈ cs.getLast?, isBlank c = false

variable {cs body left right : List Char}

/-- What is dropped in front ends where the first character stays. -/
theorem head?_dropWhile {p : Char → Bool} {c : Char} (h : c ∈ (cs.dropWhile p).head?) :
    p c = false := by
  have hstop := List.head?_dropWhile_not p cs
  rwa [h] at hstop

theorem isTrimmed_trim (cs : List Char) : IsTrimmed (trim cs) where
  front := by
    intro c hc
    have hprefix : trim cs <+: trimFront cs := List.rdropWhile_prefix isBlank (trimFront cs)
    obtain ⟨right, hright⟩ := hprefix
    have hfront : c ∈ (trimFront cs).head? := by
      rw [← hright, List.head?_append, Option.mem_def.mp hc]
      exact rfl
    exact head?_dropWhile hfront
  back := by
    intro c hc
    rw [trim, trimBack, List.getLast?_reverse] at hc
    exact head?_dropWhile hc

/-- Only blanks are trimmed. -/
theorem exists_trim (cs : List Char) :
    ∃ left right, cs = left ++ (trim cs ++ right) ∧ (∀ c ∈ left, isBlank c = true) ∧
      ∀ c ∈ right, isBlank c = true := by
  refine ⟨cs.takeWhile isBlank, (trimFront cs).rtakeWhile isBlank, ?_, ?_, ?_⟩
  · have hback : trim cs ++ (trimFront cs).rtakeWhile isBlank = trimFront cs :=
      List.rdropWhile_append_rtakeWhile
    rw [hback]
    exact List.takeWhile_append_dropWhile.symm
  · exact fun c hc => List.mem_takeWhile_imp hc
  · exact fun c hc => List.mem_rtakeWhile_imp hc

theorem trimBack_append (h : ∀ c ∈ body.getLast?, isBlank c = false)
    (hright : ∀ c ∈ right, isBlank c = true) : trimBack (body ++ right) = body := by
  unfold trimBack
  rw [List.reverse_append, List.dropWhile_append_of_pos (by simpa using hright),
    dropWhile_eq_self (by simpa using h), List.reverse_reverse]

/-- Blanks around a trimmed text are trimmed again. -/
theorem IsTrimmed.trim_eq (h : IsTrimmed body) (hleft : ∀ c ∈ left, isBlank c = true)
    (hright : ∀ c ∈ right, isBlank c = true) : trim (left ++ (body ++ right)) = body := by
  have hfront : trimFront (left ++ (body ++ right)) = (body ++ right).dropWhile isBlank :=
    List.dropWhile_append_of_pos hleft
  unfold trim
  rw [hfront]
  cases body with
  | nil =>
      rw [List.nil_append, List.dropWhile_eq_nil_iff.mpr hright]
      rfl
  | cons c body =>
      have hstart : (c :: body ++ right).dropWhile isBlank = c :: body ++ right :=
        dropWhile_eq_self h.front
      rw [hstart]
      exact trimBack_append h.back hright

theorem trim_eq_iff :
    trim cs = body ↔ IsTrimmed body ∧ ∃ left right, cs = left ++ (body ++ right) ∧
      (∀ c ∈ left, isBlank c = true) ∧ ∀ c ∈ right, isBlank c = true := by
  constructor
  · rintro rfl
    exact ⟨isTrimmed_trim cs, exists_trim cs⟩
  · rintro ⟨h, left, right, rfl, hleft, hright⟩
    exact h.trim_eq hleft hright

theorem IsTrimmed.trim_eq_self (h : IsTrimmed cs) : trim cs = cs :=
  trim_eq_iff.mpr ⟨h, [], [], by simp, by simp, by simp⟩

end Text

/-! ### Words and pieces -/

namespace Options

open Text

/-- A text without separators that is not empty. -/
structure IsWord (w : List Char) : Prop where
  ne_nil : w ≠ []
  unbroken : ∀ c ∈ w, isSeparator c = false

/-- The text consists of words, with a run of separators between each two of them. -/
structure IsCut (ps : List (List Char)) (cs : List Char) : Prop where
  words : ∀ p ∈ ps, IsWord p
  spaced : Spaced ps cs

variable {ps ws : List (List Char)} {cs cs' : List Char}

theorem IsWord.pieces_eq {w : List Char} (h : IsWord w) : pieces w = [w] := pieces_of_run h.ne_nil h.unbroken

/-- A text is cut in one way only. -/
theorem IsCut.pieces_eq (h : IsCut ps cs) : pieces cs = ps := by
  rw [h.spaced.pieces_eq, List.flatMap_congr fun p hp => (h.words p hp).pieces_eq,
    List.flatMap_singleton']

/-- Texts of the same words start in the same way. -/
theorem Spaced.head?_eq (h : Spaced ws cs) (hne : ∀ w ∈ ws, w ≠ []) :
    cs.head? = ws.head?.bind List.head? := by
  cases h with
  | nil => rfl
  | single => rfl
  | cons => exact List.head?_append_of_ne_nil _ (hne _ List.mem_cons_self)

theorem Spaced.ne_nil (h : Spaced ws cs) (hws : ws ≠ []) (hne : ∀ w ∈ ws, w ≠ []) : cs ≠ [] := by
  obtain ⟨w, ws, rfl⟩ := List.exists_cons_of_ne_nil hws
  have hhead := h.head?_eq hne
  rintro rfl
  exact hne w List.mem_cons_self (List.head?_eq_none_iff.mp hhead.symm)

/-- Texts of the same words end in the same way. -/
theorem Spaced.getLast?_eq (h : Spaced ws cs) (hne : ∀ w ∈ ws, w ≠ []) :
    cs.getLast? = ws.getLast?.bind List.getLast? := by
  induction h with
  | nil => rfl
  | single => rfl
  | @cons w v ws gap cs _ _ hrest ih =>
      have hne' : ∀ u ∈ v :: ws, u ≠ [] := fun u hu => hne u (List.mem_cons_of_mem w hu)
      rw [← List.append_assoc,
        List.getLast?_append_of_ne_nil _ (hrest.ne_nil (List.cons_ne_nil v ws) hne'), ih hne',
        List.getLast?_cons_cons]

/-- A text of words is trimmed if its first word does not start with a blank and its last one does
not end in one. -/
theorem Spaced.isTrimmed_iff (h : Spaced ws cs) (hne : ∀ w ∈ ws, w ≠ []) :
    IsTrimmed cs ↔ (∀ w ∈ ws.head?, ∀ c ∈ w.head?, isBlank c = false) ∧
      ∀ w ∈ ws.getLast?, ∀ c ∈ w.getLast?, isBlank c = false := by
  have hfront : (∀ c ∈ cs.head?, isBlank c = false) ↔
      ∀ w ∈ ws.head?, ∀ c ∈ w.head?, isBlank c = false := by
    rw [h.head?_eq hne]
    cases ws.head? <;> simp
  have hback : (∀ c ∈ cs.getLast?, isBlank c = false) ↔
      ∀ w ∈ ws.getLast?, ∀ c ∈ w.getLast?, isBlank c = false := by
    rw [h.getLast?_eq hne]
    cases ws.getLast? <;> simp
  rw [← hfront, ← hback]
  exact ⟨fun ht => ⟨ht.front, ht.back⟩, fun ht => ⟨ht.1, ht.2⟩⟩

/-- Whether a text of words is trimmed depends on the words only. -/
theorem Spaced.isTrimmed (h : Spaced ws cs) (h' : Spaced ws cs') (hne : ∀ w ∈ ws, w ≠ [])
    (htrimmed : IsTrimmed cs) : IsTrimmed cs' :=
  (h'.isTrimmed_iff hne).mpr ((h.isTrimmed_iff hne).mp htrimmed)

theorem spaced_cons_iff {w : List Char} (hws : ws ≠ []) :
    Spaced (w :: ws) cs ↔ ∃ gap rest, cs = w ++ (gap ++ rest) ∧ gap ≠ [] ∧
      (∀ c ∈ gap, isSeparator c = true) ∧ Spaced ws rest := by
  obtain ⟨v, ws, rfl⟩ := List.exists_cons_of_ne_nil hws
  constructor
  · intro h
    cases h with
    | cons hne hgap hrest => exact ⟨_, _, rfl, hne, hgap, hrest⟩
  · rintro ⟨gap, rest, rfl, hne, hgap, hrest⟩
    exact .cons hne hgap hrest

/-- A text of many words is a text of the first ones, separators, and a text of the others. -/
theorem spaced_append_iff {vs : List (List Char)} (hws : ws ≠ []) (hvs : vs ≠ []) :
    Spaced (ws ++ vs) cs ↔ ∃ front gap rest, cs = front ++ (gap ++ rest) ∧ Spaced ws front ∧
      gap ≠ [] ∧ (∀ c ∈ gap, isSeparator c = true) ∧ Spaced vs rest := by
  induction ws generalizing cs with
  | nil => exact absurd rfl hws
  | cons w ws ih =>
      by_cases hne : ws = []
      · subst hne
        rw [List.singleton_append, spaced_cons_iff hvs]
        constructor
        · rintro ⟨gap, rest, rfl, hgap⟩
          exact ⟨w, gap, rest, rfl, .single w, hgap⟩
        · rintro ⟨front, gap, rest, rfl, hfront, hgap⟩
          cases hfront
          exact ⟨gap, rest, rfl, hgap⟩
      · rw [List.cons_append, spaced_cons_iff (List.append_ne_nil_of_left_ne_nil hne vs)]
        constructor
        · rintro ⟨gap, rest, rfl, hgap, hseps, hrest⟩
          obtain ⟨front, gap', rest', rfl, hfront, hgap'⟩ := (ih hne).mp hrest
          exact ⟨w ++ (gap ++ front), gap', rest', by simp,
            (spaced_cons_iff hne).mpr ⟨gap, front, rfl, hgap, hseps, hfront⟩, hgap'⟩
        · rintro ⟨_, gap', rest', rfl, hfront, hgap'⟩
          obtain ⟨gap, front, rfl, hgap, hseps, hfront⟩ := (spaced_cons_iff hne).mp hfront
          exact ⟨gap, front ++ (gap' ++ rest'), by simp, hgap, hseps,
            (ih hne).mpr ⟨front, gap', rest', rfl, hfront, hgap'⟩⟩

theorem flatten_ne_nil {gs : List (List (List Char))} (h : ∀ g ∈ gs, g ≠ []) (hne : gs ≠ []) :
    gs.flatten ≠ [] := by
  obtain ⟨g, hg⟩ := List.exists_mem_of_ne_nil gs hne
  exact List.flatten_ne_nil_iff.mpr ⟨g, hg, h g hg⟩

/-- A text of grouped words is a text of texts, one for each group. -/
theorem spaced_flatten_iff {gs : List (List (List Char))} (h : ∀ g ∈ gs, g ≠ []) :
    Spaced gs.flatten cs ↔ ∃ ss, List.Forall₂ Spaced gs ss ∧ Spaced ss cs := by
  induction gs generalizing cs with
  | nil =>
      constructor
      · intro hcs
        cases hcs
        exact ⟨[], .nil, .nil⟩
      · rintro ⟨ss, hss, hcs⟩
        cases hss
        exact hcs
  | cons g gs ih =>
      obtain ⟨hg, hgs⟩ := List.forall_mem_cons.mp h
      by_cases hne : gs = []
      · subst hne
        rw [List.flatten_cons, List.flatten_nil, List.append_nil]
        constructor
        · intro hcs
          exact ⟨[cs], .cons hcs .nil, .single cs⟩
        · rintro ⟨ss, hss, hcs⟩
          cases hss with
          | cons hs hrest =>
              cases hrest
              cases hcs
              exact hs
      · have hlength : ∀ {ss : List (List Char)}, List.Forall₂ Spaced gs ss → ss ≠ [] := by
          rintro _ hss rfl
          cases hss
          exact hne rfl
        rw [List.flatten_cons, spaced_append_iff hg (flatten_ne_nil hgs hne)]
        constructor
        · rintro ⟨front, gap, rest, rfl, hfront, hgap, hseps, hrest⟩
          obtain ⟨ss, hss, hrest⟩ := (ih hgs).mp hrest
          exact ⟨front :: ss, .cons hfront hss,
            (spaced_cons_iff (hlength hss)).mpr ⟨gap, rest, rfl, hgap, hseps, hrest⟩⟩
        · rintro ⟨_, hss, hcs⟩
          cases hss with
          | @cons _ front _ ss hfront hss =>
              obtain ⟨gap, rest, rfl, hgap, hseps, hrest⟩ :=
                (spaced_cons_iff (hlength hss)).mp hcs
              exact ⟨front, gap, rest, rfl, hfront, hgap, hseps, (ih hgs).mpr ⟨ss, hss, hrest⟩⟩

/-- A longer first word makes a longer text. -/
theorem Spaced.cons_char {c : Char} {w : List Char} (h : Spaced (w :: ws) cs) :
    Spaced ((c :: w) :: ws) (c :: cs) := by
  cases h with
  | single => exact .single _
  | cons hne hgap hrest => exact .cons hne hgap hrest

/-- A character that is no separator belongs to the first word, or it is a word of its own. -/
theorem IsCut.exists_cons {c : Char} {gap : List Char} (h : IsCut ps cs)
    (hc : isSeparator c = false) (hgap : ∀ d ∈ gap, isSeparator d = true)
    (hback : ∀ d ∈ (gap ++ cs).getLast?, isSeparator d = false) :
    ∃ ps', IsCut ps' (c :: (gap ++ cs)) := by
  have hword : IsWord [c] := ⟨List.cons_ne_nil c [], List.forall_mem_singleton.mpr hc⟩
  cases ps with
  | nil =>
      -- Only separators would stand behind `c`, but the text does not end in one.
      obtain rfl : cs = [] := by
        cases h.spaced
        rfl
      rw [List.append_nil] at hback ⊢
      rcases List.eq_nil_or_concat gap with rfl | ⟨front, d, rfl⟩
      · exact ⟨[[c]], List.forall_mem_singleton.mpr hword, .single [c]⟩
      · have hd := hback d (by simp)
        rw [hgap d (by simp)] at hd
        cases hd
  | cons p ps =>
      obtain ⟨hp, hps⟩ := List.forall_mem_cons.mp h.words
      cases gap with
      | nil =>
          have hlonger : IsWord (c :: p) :=
            ⟨List.cons_ne_nil c p, List.forall_mem_cons.mpr ⟨hc, hp.unbroken⟩⟩
          exact ⟨(c :: p) :: ps, List.forall_mem_cons.mpr ⟨hlonger, hps⟩, h.spaced.cons_char⟩
      | cons d gap =>
          exact ⟨[c] :: p :: ps, List.forall_mem_cons.mpr ⟨hword, h.words⟩,
            .cons (List.cons_ne_nil d gap) hgap h.spaced⟩

/-- Behind the separators in front, a text that does not end in a separator can be cut. -/
theorem exists_isCut_behind (hback : ∀ c ∈ cs.getLast?, isSeparator c = false) :
    ∃ gap ps body, cs = gap ++ body ∧ (∀ c ∈ gap, isSeparator c = true) ∧ IsCut ps body := by
  induction cs with
  | nil => exact ⟨[], [], [], rfl, by simp, by simp, .nil⟩
  | cons c cs ih =>
      have hback' : ∀ d ∈ cs.getLast?, isSeparator d = false := by
        intro d hd
        refine hback d ?_
        rw [List.getLast?_cons, Option.mem_def.mp hd]
        rfl
      obtain ⟨gap, ps, body, rfl, hgap, hbody⟩ := ih hback'
      cases hc : isSeparator c with
      | true => exact ⟨c :: gap, ps, body, rfl, List.forall_mem_cons.mpr ⟨hc, hgap⟩, hbody⟩
      | false =>
          obtain ⟨ps', hps'⟩ := hbody.exists_cons hc hgap hback'
          exact ⟨[], ps', _, rfl, by simp, hps'⟩

/-- A text without separators at its ends can be cut. -/
theorem exists_isCut (hfront : ∀ c ∈ cs.head?, isSeparator c = false)
    (hback : ∀ c ∈ cs.getLast?, isSeparator c = false) : ∃ ps, IsCut ps cs := by
  obtain ⟨gap, ps, body, rfl, hgap, hbody⟩ := exists_isCut_behind hback
  cases gap with
  | nil => exact ⟨ps, hbody⟩
  | cons c gap => simp [hgap c List.mem_cons_self] at hfront

/-- The pieces of a trimmed text are the words that it consists of. -/
theorem isCut_pieces (h : IsTrimmed cs) : IsCut (pieces cs) cs := by
  obtain ⟨ps, hps⟩ := exists_isCut
    (fun c hc => isSeparator_of_isBlank_eq_false (h.front c hc))
    (fun c hc => isSeparator_of_isBlank_eq_false (h.back c hc))
  rwa [hps.pieces_eq]

end Options
end WikiDates
