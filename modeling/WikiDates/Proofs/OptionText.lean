import Mathlib.Data.List.Basic
import WikiDates.Options.Basic
import WikiDates.Proofs.Printing
import WikiDates.Proofs.Results
import WikiDates.Text.Ascii

/-!
# Printed options

    Options ──entries──▶ words ──Spaced──▶ text ──tokenize──▶ words ──readToken──▶ Options

Options can be written down one by one: the override and the offset as printed expressions, `-t` for
the time, and last the format in double quotes behind `-f`. `Options.parse_of_spaced` says that
reading them gives back the options, whatever separators stand between the words. The words in front
of the format hold neither separators nor double quotes, so each of them is a token of its own. The
format may hold one space: it is cut there, and mended again because its first half starts with a
double quote.
-/

namespace WikiDates

/-! ### Trimming -/

namespace Text

theorem isBlank_of_isAlphanum {c : Char} (h : c.isAlphanum = true) : isBlank c = false := by
  rw [isAlphanum_iff, isAlpha_iff] at h
  simp only [isBlank, isSeparator, Bool.or_eq_false_iff, Bool.and_eq_false_imp, decide_eq_true_eq,
    decide_eq_false_iff_not, Nat.not_le, beq_eq_false_iff_ne, ne_eq]
  omega

theorem isSeparator_of_isBlank_eq_false {c : Char} (h : isBlank c = false) :
    isSeparator c = false := by
  rw [isBlank, Bool.or_eq_false_iff] at h
  exact h.1

/-- A text is *solid* if it holds something and no blank stands at an end of it. -/
structure Solid (cs : List Char) : Prop where
  ne_nil : cs ≠ []
  front : ∀ c ∈ cs.head?, isBlank c = false
  back : ∀ c ∈ cs.getLast?, isBlank c = false

theorem Solid.of_forall {cs : List Char} (hne : cs ≠ []) (h : ∀ c ∈ cs, isBlank c = false) :
    Solid cs where
  ne_nil := hne
  front := fun c hc => h c (List.mem_of_mem_head? hc)
  back := fun c hc => h c (List.mem_of_mem_getLast? hc)

theorem dropWhile_eq_self {cs : List Char} (h : ∀ c ∈ cs.head?, isBlank c = false) :
    cs.dropWhile isBlank = cs := by
  cases cs with
  | nil => rfl
  | cons c cs => rw [List.dropWhile_cons_of_neg (by simp [h c rfl])]

/-- There is nothing to trim from a solid text. -/
theorem Solid.trim_eq {cs : List Char} (h : Solid cs) : trim cs = cs := by
  unfold trim trimFront trimBack
  rw [dropWhile_eq_self h.front, dropWhile_eq_self, List.reverse_reverse]
  rw [List.head?_reverse]
  exact h.back

end Text

namespace Options

open Text

/-! ### Words with separators between them -/

/-- A text that consists of words, with a run of separators between each two of them. -/
inductive Spaced : List (List Char) → List Char → Prop where
  | nil : Spaced [] []
  | single (w : List Char) : Spaced [w] w
  | cons {w v : List Char} {ws : List (List Char)} {gap cs : List Char} (hne : gap ≠ [])
      (hgap : ∀ c ∈ gap, isSeparator c = true) (hrest : Spaced (v :: ws) cs) :
      Spaced (w :: v :: ws) (w ++ (gap ++ cs))

/-- Words without blanks at their ends make up a text without blanks at its ends. -/
theorem Spaced.solid {ws : List (List Char)} {cs : List Char} (h : Spaced ws cs) (hne : ws ≠ [])
    (hws : ∀ w ∈ ws, Solid w) : Solid cs := by
  induction h with
  | nil => exact absurd rfl hne
  | single w => exact hws w List.mem_cons_self
  | @cons w v ws gap cs _ _ _ ih =>
      have hw := hws w List.mem_cons_self
      have hrest := ih (List.cons_ne_nil v ws) fun u hu => hws u (List.mem_cons_of_mem w hu)
      refine ⟨List.append_ne_nil_of_left_ne_nil hw.ne_nil _, ?_, ?_⟩
      · rw [List.head?_append_of_ne_nil _ hw.ne_nil]
        exact hw.front
      · rw [← List.append_assoc, List.getLast?_append_of_ne_nil _ hrest.ne_nil]
        exact hrest.back

theorem pieces_append_separators {gap : List Char} (h : ∀ c ∈ gap, isSeparator c = true)
    (cs : List Char) : pieces (gap ++ cs) = pieces cs := by
  induction gap with
  | nil => rfl
  | cons c gap ih =>
      rw [List.forall_mem_cons] at h
      rw [List.cons_append, pieces_cons_separator h.1, ih h.2]

/-- Each word is cut on its own. -/
theorem Spaced.pieces_eq {ws : List (List Char)} {cs : List Char} (h : Spaced ws cs) :
    pieces cs = ws.flatMap pieces := by
  induction h with
  | nil => rfl
  | single w => rw [List.flatMap_singleton]
  | @cons w v ws gap cs hne hgap _ ih =>
      obtain ⟨c, gap, rfl⟩ := List.exists_cons_of_ne_nil hne
      rw [List.forall_mem_cons] at hgap
      rw [List.flatMap_cons, ← ih, List.cons_append, pieces_append_separator hgap.1,
        pieces_append_separators hgap.2]

theorem pieces_of_run {w : List Char} (hne : w ≠ []) (h : ∀ c ∈ w, isSeparator c = false) :
    pieces w = [w] := by
  induction w with
  | nil => exact absurd rfl hne
  | cons c w ih =>
      rw [List.forall_mem_cons] at h
      rw [pieces, if_neg (by simp [h.1])]
      cases w with
      | nil => rfl
      | cons d w =>
          have hstart : startsRun (d :: w) = true := by simp [startsRun, h.2 d List.mem_cons_self]
          rw [ih (List.cons_ne_nil d w) h.2, hstart]

/-! ### Tokens -/

/-- Pieces without a double quote are left alone. -/
theorem mend_append {ps : List (List Char)} (h : ∀ p ∈ ps, '"' ∉ p) (qs : List (List Char)) :
    mend (ps ++ qs) = ps ++ mend qs := by
  induction ps with
  | nil => rfl
  | cons p ps ih =>
      rw [List.forall_mem_cons] at h
      rw [List.cons_append, List.cons_append, ← ih h.2]
      cases ps ++ qs with
      | nil => rfl
      | cons q rest => rw [mend, if_neg (by simp [h.1])]

/-- A word that is a token wherever it stands: it holds no blanks and no double quote. -/
structure IsPlain (w : List Char) : Prop where
  ne_nil : w ≠ []
  unblank : ∀ c ∈ w, isBlank c = false
  unquoted : '"' ∉ w

theorem IsPlain.pieces_eq {w : List Char} (h : IsPlain w) : pieces w = [w] :=
  pieces_of_run h.ne_nil fun c hc => isSeparator_of_isBlank_eq_false (h.unblank c hc)

/-- Plain words are tokens, and so is a last word that is mended to itself. -/
theorem Spaced.tokenChars_eq {front : List (List Char)} {last : Option (List Char)}
    {cs : List Char} (h : Spaced (front ++ last.toList) cs) (hfront : ∀ w ∈ front, IsPlain w)
    (hlast : ∀ w ∈ last, Solid w ∧ mend (pieces w) = [w]) :
    tokenChars cs = front ++ last.toList := by
  have hpieces : front.flatMap pieces = front := by
    rw [List.flatMap_congr fun w hw => (hfront w hw).pieces_eq, List.flatMap_singleton']
  have hmend : mend (last.toList.flatMap pieces) = last.toList := by
    cases last with
    | none => rfl
    | some w => rw [Option.toList_some, List.flatMap_singleton, (hlast w rfl).2]
  have htrim : trim cs = cs := by
    by_cases hne : front ++ last.toList = []
    · rw [hne] at h
      cases h
      rfl
    · refine (h.solid hne fun w hw => ?_).trim_eq
      rcases List.mem_append.mp hw with hw | hw
      · exact .of_forall (hfront w hw).ne_nil (hfront w hw).unblank
      · exact (hlast w (Option.mem_toList.mp hw)).1
  unfold tokenChars
  rw [htrim, h.pieces_eq, List.flatMap_append, hpieces,
    mend_append fun w hw => (hfront w hw).unquoted, hmend]

/-! ### Printed entries -/

namespace Entry

/-- The text of a single option, unless it holds a number that is too long to be written out. -/
def print? : Entry → Option String
  | time => some "-t"
  | format pattern => some ("-f\"" ++ pattern ++ "\"")
  | offset o => o.print?
  | override e => e.print?

/-- The characters of a single option. -/
def chars : Entry → List Char
  | time => ['-', 't']
  | format pattern => '-' :: 'f' :: '"' :: (pattern.toList ++ ['"'])
  | offset o => o.chars
  | override e => e.chars

/-- An option that can be written down and read again. An override has to say something; an offset
goes up or down; numbers have to be short enough to be written out; a format has to be a pattern, and
the tokens of its text may be cut at one space at most. -/
def IsPrintable : Entry → Prop
  | time => True
  | format pattern => (∃ p, Pattern.parse pattern = .ok p) ∧
      (pattern.toList.filter isSeparator = [] ∨ pattern.toList.filter isSeparator = [' '])
  | offset o => (o.sign = 1 ∨ o.sign = -1) ∧
      ∀ a ∈ o.assignments, a.magnitude < 10 ^ Numeral.digitLimit
  | override e => e ≠ [] ∧ ∀ a ∈ e, a.magnitude < 10 ^ Numeral.digitLimit

theorem IsPrintable.print?_eq {entry : Entry} (h : entry.IsPrintable) :
    entry.print? = some (String.ofList entry.chars) := by
  cases entry with
  | time => rfl
  | format pattern =>
      rw [print?, chars]
      congr 1
      apply String.toList_inj.mp
      simp
  | offset o => exact if_pos (Expression.isWritable_iff.mpr h.2)
  | override e => exact if_pos (Expression.isWritable_iff.mpr h.2)

/-! ### Entries as tokens -/

theorem isPlain_override {e : Expression} (h : e ≠ []) : IsPlain e.chars := by
  obtain ⟨c, cs, hcs, -⟩ := Expression.exists_chars_eq_cons h
  exact {
    ne_nil := by rw [hcs]; exact List.cons_ne_nil c cs
    unblank := fun d hd => isBlank_of_isAlphanum (Expression.isAlphanum_of_mem_chars hd)
    unquoted := fun hd => absurd (Expression.isAlphanum_of_mem_chars hd) (by decide) }

theorem isPlain_offset (o : Offset) : IsPlain o.chars := by
  have hsign : ∀ c ∈ o.chars, c = '+' ∨ c = '-' ∨ c.isAlphanum = true := by
    intro c hc
    rcases List.mem_cons.mp hc with rfl | hc
    · split
      · exact Or.inl rfl
      · exact Or.inr (Or.inl rfl)
    · exact Or.inr (Or.inr (Expression.isAlphanum_of_mem_chars hc))
  refine ⟨List.cons_ne_nil _ _, fun c hc => ?_, fun hc => ?_⟩
  · rcases hsign c hc with rfl | rfl | hletter
    · decide
    · decide
    · exact isBlank_of_isAlphanum hletter
  · exact absurd (hsign _ hc) (by decide)

theorem isPlain_time : IsPlain time.chars where
  ne_nil := List.cons_ne_nil _ _
  unblank := List.forall_mem_cons.mpr ⟨by decide, List.forall_mem_singleton.mpr (by decide)⟩
  unquoted := by decide

theorem chars_format (pattern : String) :
    (format pattern).chars = '-' :: 'f' :: '"' :: (pattern.toList ++ ['"']) := rfl

theorem solid_format (pattern : String) : Solid (format pattern).chars := by
  refine ⟨List.cons_ne_nil _ _, fun c hc => ?_, fun c hc => ?_⟩
  · cases hc
    decide
  · rw [chars_format, ← List.cons_append, ← List.cons_append, ← List.cons_append,
      List.getLast?_concat] at hc
    cases hc
    decide

theorem isSeparator_of_mem_front {cs : List Char} (h : ∀ c ∈ cs, isSeparator c = false) :
    ∀ c ∈ '-' :: 'f' :: '"' :: cs, isSeparator c = false := by
  simp only [List.forall_mem_cons]
  exact ⟨by decide, by decide, by decide, h⟩

theorem isSeparator_of_mem_back {cs : List Char} (h : ∀ c ∈ cs, isSeparator c = false) :
    ∀ c ∈ cs ++ ['"'], isSeparator c = false := by
  rw [List.forall_mem_append, List.forall_mem_singleton]
  exact ⟨h, by decide⟩

/-- A format is cut at its space, if it has one, and mended there. -/
theorem mend_pieces_format {pattern : String}
    (h : pattern.toList.filter isSeparator = [] ∨ pattern.toList.filter isSeparator = [' ']) :
    mend (pieces (format pattern).chars) = [(format pattern).chars] := by
  rw [chars_format]
  rcases h with hnone | hspace
  · have hrun : ∀ c ∈ pattern.toList, isSeparator c = false := fun c hc => by
      simpa using List.filter_eq_nil_iff.mp hnone c hc
    rw [pieces_of_run (List.cons_ne_nil _ _)
      (isSeparator_of_mem_front (isSeparator_of_mem_back hrun))]
    rfl
  · obtain ⟨a, b, hab, ha, hsep, hb⟩ := List.filter_eq_cons_iff.mp hspace
    have hfront : ∀ c ∈ a, isSeparator c = false := fun c hc => by simpa using ha c hc
    have hback : ∀ c ∈ b, isSeparator c = false := fun c hc => by
      simpa using List.filter_eq_nil_iff.mp hb c hc
    have hsplit : '-' :: 'f' :: '"' :: (pattern.toList ++ ['"']) =
        ('-' :: 'f' :: '"' :: a) ++ ' ' :: (b ++ ['"']) := by simp [hab]
    rw [hsplit, pieces_append_separator hsep,
      pieces_of_run (List.cons_ne_nil _ _) (isSeparator_of_mem_front hfront),
      pieces_of_run (by simp) (isSeparator_of_mem_back hback)]
    rfl

/-! ### Entries that are read -/

theorem readExpression_chars (e : Expression) : readExpression e.chars = .ok e := by
  unfold readExpression
  rw [Expression.parse_chars]
  rfl

theorem unquoted_quoted (cs : List Char) : unquoted ('"' :: (cs ++ ['"'])) = cs := by
  show (if (cs ++ ['"']).getLast? = some '"' then (cs ++ ['"']).dropLast else _) = cs
  rw [List.getLast?_concat, if_pos rfl, List.dropLast_concat]

theorem readFormat_quoted {pattern : String} {p : Pattern} (h : Pattern.parse pattern = .ok p) :
    readFormat ('"' :: (pattern.toList ++ ['"'])) = .ok pattern := by
  unfold readFormat
  rw [unquoted_quoted, String.ofList_toList]
  dsimp only
  rw [h]

theorem readToken_of_isDigit {c : Char} (h : c.isDigit = true) (cs : List Char) :
    readToken (c :: cs) = (readExpression (c :: cs)).map .override := by
  unfold readToken
  split
  · next hcs =>
      cases hcs
      exact absurd h (by decide)
  · next hcs =>
      cases hcs
      exact absurd h (by decide)
  · next hcs =>
      cases hcs
      exact absurd h (by decide)
  · next hcs =>
      cases hcs
      exact absurd h (by decide)
  · rfl

/-- A printed expression behind a minus sign is neither `-t` nor a format. -/
theorem readToken_minus (e : Expression) :
    readToken ('-' :: e.chars) = (readExpression e.chars).map fun e => .offset ⟨-1, e⟩ := by
  by_cases hne : e = []
  · subst hne
    rfl
  · obtain ⟨c, cs, hcs, hdigit⟩ := Expression.exists_chars_eq_cons hne
    rw [hcs]
    unfold readToken
    split
    · next hword =>
        cases hword
        exact absurd hdigit (by decide)
    · next hword =>
        cases hword
        exact absurd hdigit (by decide)
    · next hword =>
        cases hword
        rfl
    · next hword => cases hword
    · next hminus _ => exact absurd rfl (hminus _)

/-- Every option is read as what was printed. -/
theorem IsPrintable.readToken_eq {entry : Entry} (h : entry.IsPrintable) :
    readToken entry.chars = .ok entry := by
  cases entry with
  | time => rfl
  | format pattern =>
      obtain ⟨⟨p, hp⟩, -⟩ := h
      show (readFormat ('"' :: (pattern.toList ++ ['"']))).map format = _
      rw [readFormat_quoted hp]
      rfl
  | offset o =>
      obtain ⟨sign, e⟩ := o
      rcases h.1 with rfl | rfl
      · show (readExpression e.chars).map (fun e => offset ⟨1, e⟩) = _
        rw [readExpression_chars]
        rfl
      · show readToken ('-' :: e.chars) = _
        rw [readToken_minus, readExpression_chars]
        rfl
  | override e =>
      obtain ⟨c, cs, hcs, hdigit⟩ := Expression.exists_chars_eq_cons h.1
      show readToken e.chars = _
      rw [hcs, readToken_of_isDigit hdigit, ← hcs, readExpression_chars]
      rfl

end Entry

/-! ### Printed options -/

/-- Options one by one, in the order in which they are written down. -/
def entries (o : Options) : List Entry :=
  (o.override.map .override).toList ++ (o.offset.map .offset).toList ++
    (if o.showTime then [.time] else []) ++ (o.format.map .format).toList

theorem foldl_set_entries (o : Options) : o.entries.foldl set {} = o := by
  obtain ⟨showTime, format, offset, override⟩ := o
  cases showTime <;> cases format <;> cases offset <;> cases override <;> rfl

theorem ofTokens_of_read {entries : List Entry}
    (h : ∀ entry ∈ entries, readToken entry.chars = .ok entry) :
    ofTokens (entries.map fun entry => String.ofList entry.chars) = .ok (entries.foldl set {}) := by
  unfold ofTokens
  generalize ({} : Options) = o
  induction entries generalizing o with
  | nil => rfl
  | cons entry entries ih =>
      rw [List.forall_mem_cons] at h
      rw [List.map_cons, List.foldlM_cons, String.toList_ofList, h.1]
      exact ih h.2 (o.set entry)

/-- The entries in front of the format are plain words. -/
theorem isPlain_of_mem {o : Options} {entry : Entry}
    (hmem : entry ∈ (o.override.map Entry.override).toList ++
      (o.offset.map Entry.offset).toList ++ if o.showTime then [Entry.time] else [])
    (h : entry.IsPrintable) : IsPlain entry.chars := by
  cases entry with
  | time => exact Entry.isPlain_time
  | format pattern =>
      refine absurd hmem ?_
      split <;> simp
  | offset f => exact Entry.isPlain_offset f
  | override e => exact Entry.isPlain_override h.1

theorem tokenChars_of_spaced {o : Options} (h : ∀ entry ∈ o.entries, entry.IsPrintable)
    {cs : List Char} (hcs : Spaced (o.entries.map Entry.chars) cs) :
    tokenChars cs = o.entries.map Entry.chars := by
  unfold entries at h hcs ⊢
  rw [List.forall_mem_append] at h
  rw [List.map_append, ← Option.toList_map] at hcs ⊢
  refine hcs.tokenChars_eq ?_ ?_
  · rw [List.forall_mem_map]
    exact fun entry hentry => isPlain_of_mem hentry (h.1 entry hentry)
  · intro w hw
    obtain ⟨entry, hentry, rfl⟩ := Option.map_eq_some_iff.mp hw
    have hprintable := h.2 entry (Option.mem_toList.mpr hentry)
    obtain ⟨pattern, -, rfl⟩ := Option.map_eq_some_iff.mp hentry
    exact ⟨Entry.solid_format pattern, Entry.mend_pieces_format hprintable.2⟩

theorem mapM_print? {entries : List Entry} (h : ∀ entry ∈ entries, entry.IsPrintable) :
    entries.mapM Entry.print? = some (entries.map fun entry => String.ofList entry.chars) := by
  induction entries with
  | nil => rfl
  | cons entry entries ih =>
      rw [List.forall_mem_cons] at h
      rw [List.mapM_cons, h.1.print?_eq, ih h.2]
      rfl

/-- **Printed options are read as what they were.** All options can be printed, and whatever
separators stand between their texts, reading gives back the options. -/
theorem parse_of_spaced {o : Options} (h : ∀ entry ∈ o.entries, entry.IsPrintable) :
    ∃ words, o.entries.mapM Entry.print? = some words ∧
      ∀ text : String, Spaced (words.map String.toList) text.toList → parse (some text) = .ok o := by
  refine ⟨_, mapM_print? h, fun text htext => ?_⟩
  rw [List.map_map] at htext
  have htokens := tokenChars_of_spaced h (by simpa [Function.comp_def] using htext)
  unfold parse tokenize
  dsimp only
  rw [htokens, List.map_map]
  exact (ofTokens_of_read fun entry hentry => (h entry hentry).readToken_eq).trans
    (congrArg _ (foldl_set_entries o))

/-- All kinds of options at once: an override, an offset without amounts, the time, and a format with
a double quote in it and a space at its end. -/
theorem parse_of_spaced_all_kinds :
    (∀ entry ∈ entries ⟨true, some "yyyy\" ", some ⟨-1, []⟩, some [⟨.year, 2012⟩, ⟨.month, 0⟩]⟩,
        entry.IsPrintable) ∧
      parse (some "2012y0M  -\t-t -f\"yyyy\" \"") =
        .ok ⟨true, some "yyyy\" ", some ⟨-1, []⟩, some [⟨.year, 2012⟩, ⟨.month, 0⟩]⟩ := by
  have hprintable : ∀ entry ∈ entries
      ⟨true, some "yyyy\" ", some ⟨-1, []⟩, some [⟨.year, 2012⟩, ⟨.month, 0⟩]⟩,
      entry.IsPrintable := by
    have hlimit : 10 ^ 4 ≤ 10 ^ Numeral.digitLimit := Nat.pow_le_pow_right (by decide) (by decide)
    have hpattern : ∃ p, Pattern.parse "yyyy\" " = .ok p :=
      Results.exists_of_isOk (by decide +kernel)
    simp only [entries, Option.map_some, Option.toList_some, if_true, List.cons_append,
      List.nil_append, List.forall_mem_cons, Entry.IsPrintable]
    generalize 10 ^ Numeral.digitLimit = limit at hlimit
    refine ⟨⟨by decide, ?_, ?_, by simp⟩, ⟨by decide, by simp⟩, trivial, ⟨hpattern, by decide⟩,
      by simp⟩
    · show 2012 < limit
      omega
    · show 0 < limit
      omega
  obtain ⟨words, hwords, hparse⟩ := parse_of_spaced hprintable
  obtain rfl := Option.some.inj ((mapM_print? hprintable).symm.trans hwords)
  have hone : ∀ c ∈ [' '], isSeparator c = true := List.forall_mem_singleton.mpr (by decide)
  have htwo : ∀ c ∈ [' ', ' '], isSeparator c = true := List.forall_mem_cons.mpr ⟨by decide, hone⟩
  have htab : ∀ c ∈ ['\t'], isSeparator c = true := List.forall_mem_singleton.mpr (by decide)
  have hspaced : Spaced [['2', '0', '1', '2', 'y', '0', 'M'], ['-'], ['-', 't'],
      ['-', 'f', '"', 'y', 'y', 'y', 'y', '"', ' ', '"']] _ :=
    .cons (List.cons_ne_nil ' ' [' ']) htwo
      (.cons (List.cons_ne_nil '\t' []) htab (.cons (List.cons_ne_nil ' ' []) hone (.single _)))
  exact ⟨hprintable, hparse _ hspaced⟩

end Options
end WikiDates
