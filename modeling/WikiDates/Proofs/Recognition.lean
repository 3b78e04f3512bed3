import Mathlib.Data.List.Sort
import WikiDates.Marker

/-!
# The markers of a page

    page ──find──▶ markers, each with its positions

What a marker is can be said of the text alone. `Marker.Fronts m cs` asks that the name of an anchor
stands at the front of `cs` and ends there, and that `m` has the options of the block behind that
name, if there is one. A list is a *scan* of a page if it lists what is found in that sense, in
order and without overlaps, except for what stands inside the block of another marker of the list.

`Marker.find_eq_iff_isScan` says that every page has exactly one scan, and that `Marker.find` is this scan:
it misses no marker, makes none up, and never takes one out of a block.
-/

namespace WikiDates

namespace Marker

/-! ### The front of a text -/

/-- What stands at the front of `cs` is the marker `m`. -/
structure Fronts (m : Marker) (cs : List Char) : Prop where
  /-- The name of its anchor stands there, and no word goes on behind it. -/
  name : ∃ after, cs = head m.anchor ++ after ∧ ∀ c ∈ after.head?, Text.isWordChar c = false
  /-- It has a block exactly if a parenthesis opens there and one closes later on the line. -/
  block_iff : m.options.isSome = true ↔
    ∃ between after, cs = head m.anchor ++ '(' :: (between ++ ')' :: after) ∧ '\n' ∉ between
  /-- The block ends at the first closing parenthesis. -/
  options : ∀ options ∈ m.options, ')' ∉ options ∧ '\n' ∉ options ∧
    ∃ after, cs = head m.anchor ++ (block options ++ after)

theorem untilClosing?_eq_some_iff {cs inside rest : List Char} :
    untilClosing? cs = some (inside, rest) ↔
      cs = inside ++ ')' :: rest ∧ ')' ∉ inside ∧ '\n' ∉ inside := by
  constructor
  · intro h
    refine ⟨untilClosing?_eq_some h, ?_⟩
    induction cs generalizing inside with
    | nil => cases h
    | cons c cs ih =>
        rw [untilClosing?] at h
        split at h
        · cases h
          simp
        · next hclosing =>
            split at h
            · cases h
            · next hline =>
                obtain ⟨⟨inside', rest'⟩, hfound, hsame⟩ := Option.map_eq_some_iff.mp h
                cases hsame
                have hinside := ih hfound
                simp [Ne.symm hclosing, Ne.symm hline, hinside.1, hinside.2]
  · rintro ⟨rfl, hclosing, hline⟩
    induction inside with
    | nil => rfl
    | cons c inside ih =>
        rw [List.mem_cons, not_or] at hclosing hline
        rw [List.cons_append, untilClosing?, if_neg (Ne.symm hclosing.1), if_neg (Ne.symm hline.1),
          ih hclosing.2 hline.2]
        rfl

theorem exists_untilClosing? {between : List Char} (after : List Char) (h : '\n' ∉ between) :
    ∃ inside rest, untilClosing? (between ++ ')' :: after) = some (inside, rest) := by
  induction between with
  | nil => exact ⟨[], after, rfl⟩
  | cons c between ih =>
      rw [List.mem_cons, not_or] at h
      obtain ⟨inside, rest, hfound⟩ := ih h.2
      rw [List.cons_append, untilClosing?, if_neg (Ne.symm h.1), hfound]
      split
      · exact ⟨_, _, rfl⟩
      · exact ⟨_, _, rfl⟩

theorem readBlock?_eq_some_iff {cs options rest : List Char} :
    readBlock? cs = some (options, rest) ↔
      cs = block options ++ rest ∧ ')' ∉ options ∧ '\n' ∉ options := by
  unfold readBlock?
  split
  · rw [untilClosing?_eq_some_iff]
    simp [block]
  · next hopen =>
      constructor
      · intro h
        cases h
      · rintro ⟨rfl, -⟩
        exact absurd rfl (hopen _)

theorem isSome_readBlock?_iff {cs : List Char} :
    (readBlock? cs).isSome = true ↔
      ∃ between after, cs = '(' :: (between ++ ')' :: after) ∧ '\n' ∉ between := by
  rw [Option.isSome_iff_exists]
  constructor
  · rintro ⟨⟨options, rest⟩, h⟩
    obtain ⟨rfl, -, hline⟩ := readBlock?_eq_some_iff.mp h
    exact ⟨options, rest, by simp [block], hline⟩
  · rintro ⟨between, after, rfl, hline⟩
    obtain ⟨options, rest, h⟩ := exists_untilClosing? after hline
    exact ⟨(options, rest), h⟩

theorem endsName_iff {cs : List Char} :
    endsName cs = true ↔ ∀ c ∈ cs.head?, Text.isWordChar c = false := by
  cases cs with
  | nil => simp [endsName]
  | cons c cs => simp [endsName]

theorem readHead?_eq_some_iff {cs rest : List Char} {a b : Anchor} :
    readHead? cs a = some (b, rest) ↔ a = b ∧ cs = head a ++ rest ∧ endsName rest = true := by
  unfold readHead?
  rw [Option.bind_eq_some_iff]
  simp only [List.isPrefixOf?_eq_some_iff_append_eq]
  constructor
  · rintro ⟨rest', rfl, h⟩
    split at h
    · next hends =>
        cases h
        exact ⟨rfl, rfl, hends⟩
    · cases h
  · rintro ⟨rfl, rfl, hends⟩
    exact ⟨rest, rfl, if_pos hends⟩

/-- No two anchors can stand at the front of the same text. -/
theorem anchor_eq_of_head_append {a b : Anchor} {after after' : List Char}
    (h : head a ++ after = head b ++ after') : a = b := by
  cases a <;> cases b <;> simp_all [head, Anchor.name]

theorem findSome?_readHead?_eq_some_iff {cs rest : List Char} {a : Anchor} :
    Anchor.all.findSome? (readHead? cs) = some (a, rest) ↔
      cs = head a ++ rest ∧ endsName rest = true := by
  constructor
  · intro h
    obtain ⟨b, -, hread⟩ := List.exists_of_findSome?_eq_some h
    obtain ⟨rfl, hname⟩ := readHead?_eq_some_iff.mp hread
    exact hname
  · rintro ⟨rfl, hends⟩
    have hread : readHead? (head a ++ rest) a = some (a, rest) :=
      readHead?_eq_some_iff.mpr ⟨rfl, rfl, hends⟩
    have hsome : (Anchor.all.findSome? (readHead? (head a ++ rest))).isSome = true :=
      List.findSome?_isSome_iff.mpr ⟨a, a.mem_all, by rw [hread]; rfl⟩
    obtain ⟨⟨b, rest'⟩, hfound⟩ := Option.isSome_iff_exists.mp hsome
    obtain ⟨c, -, hread'⟩ := List.exists_of_findSome?_eq_some hfound
    obtain ⟨rfl, hsame, -⟩ := readHead?_eq_some_iff.mp hread'
    cases anchor_eq_of_head_append hsame
    rw [hfound, List.append_cancel_left hsame]

/-- What is read stands at the front. -/
theorem fronts_of_read? {cs rest : List Char} {m : Marker} (h : read? cs = some (m, rest)) :
    m.Fronts cs := by
  obtain ⟨⟨a, after⟩, hname, hmade⟩ := Option.map_eq_some_iff.mp h
  obtain ⟨rfl, hends⟩ := findSome?_readHead?_eq_some_iff.mp hname
  dsimp only at hmade
  cases hblock : readBlock? after with
  | none =>
      rw [hblock] at hmade
      cases hmade
      refine ⟨⟨_, rfl, endsName_iff.mp hends⟩, ?_, fun _ h => by cases h⟩
      simp only [List.append_cancel_left_eq]
      rw [← isSome_readBlock?_iff, hblock]
      exact Iff.rfl
  | some found =>
      obtain ⟨options, rest'⟩ := found
      rw [hblock] at hmade
      cases hmade
      obtain ⟨rfl, hclosing, hline⟩ := readBlock?_eq_some_iff.mp hblock
      refine ⟨⟨_, rfl, endsName_iff.mp hends⟩, iff_of_true rfl ?_, ?_⟩
      · exact ⟨options, rest, by simp [block], hline⟩
      · intro options' h'
        cases h'
        exact ⟨hclosing, hline, rest, rfl⟩

/-- What stands at the front is read. -/
theorem Fronts.read?_eq {m : Marker} {rest : List Char} (h : m.Fronts (m.chars ++ rest)) :
    read? (m.chars ++ rest) = some (m, rest) := by
  obtain ⟨a, options⟩ := m
  obtain ⟨⟨after, hname, hends⟩, hblock, hoptions⟩ := h
  dsimp only at hname hends hblock hoptions
  rw [hname] at hblock hoptions ⊢
  simp only [List.append_cancel_left_eq] at hblock hoptions
  rw [chars, List.append_assoc, List.append_cancel_left_eq] at hname
  unfold read?
  rw [findSome?_readHead?_eq_some_iff.mpr ⟨rfl, endsName_iff.mpr hends⟩, Option.map_some]
  cases options with
  | none =>
      have hnone : readBlock? after = none := by
        rw [← isSome_readBlock?_iff] at hblock
        exact Option.not_isSome_iff_eq_none.mp fun hsome => by cases hblock.mpr hsome
      rw [Option.elim_none, List.nil_append] at hname
      subst hname
      simp only [hnone]
  | some options =>
      obtain ⟨hclosing, hline, -⟩ := hoptions options rfl
      simp only [readBlock?_eq_some_iff.mpr ⟨hname.symm, hclosing, hline⟩]

theorem Fronts.exists_rest {m : Marker} {cs : List Char} (h : m.Fronts cs) :
    ∃ rest, cs = m.chars ++ rest := by
  unfold chars
  cases hoptions : m.options with
  | none =>
      obtain ⟨after, hname, -⟩ := h.name
      exact ⟨after, by simpa using hname⟩
  | some options =>
      obtain ⟨-, -, after, hblock⟩ := h.options options hoptions
      exact ⟨after, by simpa using hblock⟩

theorem Fronts.exists_read? {m : Marker} {cs : List Char} (h : m.Fronts cs) :
    ∃ rest, read? cs = some (m, rest) := by
  obtain ⟨rest, rfl⟩ := h.exists_rest
  exact ⟨rest, h.read?_eq⟩

/-- At most one marker stands at the front of a text. -/
theorem Fronts.unique {m m' : Marker} {cs : List Char} (h : m.Fronts cs) (h' : m'.Fronts cs) :
    m = m' := by
  obtain ⟨rest, hread⟩ := h.exists_read?
  obtain ⟨rest', hread'⟩ := h'.exists_read?
  cases hread.symm.trans hread'
  rfl

end Marker

/-! ### Cutting a page -/

namespace Segment

theorem ofChars_of_marker {cs rest : List Char} {m : Marker} (h : Marker.read? cs = some (m, rest)) :
    ofChars cs = marker m :: ofChars rest := by
  rw [ofChars]
  split
  · next h' =>
      cases h.symm.trans h'
      rfl
  · next h' => cases h.symm.trans h'

theorem ofChars_of_plain {c : Char} {cs : List Char} (h : Marker.read? (c :: cs) = none) :
    ofChars (c :: cs) = plain c :: ofChars cs := by
  rw [ofChars]
  split
  · next h' => cases h.symm.trans h'
  · rfl

end Segment

namespace Marker

/-- A marker that was found in a text, where `k` characters stand in front of that text. -/
def moved (k : Nat) (found : Marker × Nat × Nat) : Marker × Nat × Nat :=
  (found.1, found.2.1 + k, found.2.2 + k)

theorem mem_map_moved_iff {k start stop : Nat} {m : Marker} {found : List (Marker × Nat × Nat)} :
    (m, start, stop) ∈ found.map (moved k) ↔
      ∃ start' stop', start = start' + k ∧ stop = stop' + k ∧ (m, start', stop') ∈ found := by
  simp only [List.mem_map, moved, Prod.exists, Prod.mk.injEq]
  constructor
  · rintro ⟨m', start', stop', hmem, rfl, rfl, rfl⟩
    exact ⟨start', stop', rfl, rfl, hmem⟩
  · rintro ⟨start', stop', rfl, rfl, hmem⟩
    exact ⟨m, start', stop', hmem, rfl, rfl, rfl⟩

theorem located_add (k start : Nat) (parts : List Segment) :
    Segment.located (start + k) parts = (Segment.located start parts).map (moved k) := by
  induction parts generalizing start with
  | nil => rfl
  | cons part parts ih =>
      cases part with
      | plain c => rw [Segment.located, Segment.located, Nat.add_right_comm, ih]
      | marker m =>
          rw [Segment.located, Segment.located, List.map_cons, Nat.add_right_comm, ih]
          rfl

/-! ### Scans -/

/-- Whether position `p` lies in the block of a marker that was found. -/
def BlockHolds (found : Marker × Nat × Nat) (p : Nat) : Prop :=
  found.2.1 + (head found.1.anchor).length ≤ p ∧ p < found.2.2

/-- A list of the markers of a page, each with the positions of its first character and behind its
last. -/
structure IsScan (page : List Char) (found : List (Marker × Nat × Nat)) : Prop where
  /-- Every marker ends before the next one starts. -/
  apart : found.Pairwise fun earlier later => earlier.2.2 ≤ later.2.1
  /-- A marker is listed exactly if it stands in the page where it is listed, with an end behind its
  last character, and does not start inside a block. -/
  mem_iff : ∀ m start stop, (m, start, stop) ∈ found ↔
    m.Fronts (page.drop start) ∧ stop = start + m.chars.length ∧
      ∀ other ∈ found, ¬ BlockHolds other start

theorem length_chars_pos (m : Marker) : 0 < m.chars.length := by
  simp [chars, head]

theorem Fronts.head?_eq {m : Marker} {cs : List Char} (h : m.Fronts cs) : cs.head? = some '!' := by
  obtain ⟨after, rfl, -⟩ := h.name
  rfl

/-- An exclamation mark stands only at the start of what is in front of a block. -/
theorem exclamation_notMem_tail_head (a : Anchor) : '!' ∉ (head a).tail := by
  cases a <;> decide

/-- A marker that stands inside another one stands in its block. -/
theorem Fronts.length_head_le {m m' : Marker} {cs : List Char} {p : Nat} (h : m.Fronts cs)
    (h' : m'.Fronts (cs.drop p)) (hp : 0 < p) : (head m.anchor).length ≤ p := by
  by_contra hlt
  rw [Nat.not_le] at hlt
  obtain ⟨after, rfl, -⟩ := h.name
  have hmark := h'.head?_eq
  rw [List.head?_drop, List.getElem?_append_left hlt] at hmark
  obtain ⟨i, rfl⟩ : ∃ i, p = i + 1 := ⟨p - 1, by omega⟩
  rw [← List.getElem?_tail] at hmark
  exact exclamation_notMem_tail_head m.anchor (List.mem_of_getElem? hmark)

theorem blockHolds_moved_iff {k p : Nat} {found : Marker × Nat × Nat} :
    BlockHolds (moved k found) (p + k) ↔ BlockHolds found p := by
  unfold BlockHolds
  dsimp only [moved]
  omega

/-- A scan of the rest of a page gives what is found in that rest. -/
theorem IsScan.mem_map_moved_iff {page : List Char} {k : Nat} {found : List (Marker × Nat × Nat)}
    (h : IsScan (page.drop k) found) (m : Marker) (start stop : Nat) :
    (m, start + k, stop) ∈ found.map (moved k) ↔
      m.Fronts (page.drop (start + k)) ∧ stop = start + k + m.chars.length ∧
        ∀ other ∈ found.map (moved k), ¬ BlockHolds other (start + k) := by
  rw [Marker.mem_map_moved_iff]
  simp only [List.forall_mem_map, blockHolds_moved_iff]
  constructor
  · rintro ⟨start', stop', hstart, rfl, hmem⟩
    cases Nat.add_right_cancel hstart
    obtain ⟨hfronts, rfl, hblocks⟩ := (h.mem_iff m start stop').mp hmem
    rw [List.drop_drop, Nat.add_comm] at hfronts
    exact ⟨hfronts, by omega, hblocks⟩
  · rintro ⟨hfronts, rfl, hblocks⟩
    refine ⟨start, start + m.chars.length, rfl, by omega, (h.mem_iff _ _ _).mpr ⟨?_, rfl, hblocks⟩⟩
    rw [List.drop_drop, Nat.add_comm]
    exact hfronts

theorem apart_map_moved {k : Nat} {found : List (Marker × Nat × Nat)}
    (h : found.Pairwise fun earlier later => earlier.2.2 ≤ later.2.1) :
    (found.map (moved k)).Pairwise fun earlier later => earlier.2.2 ≤ later.2.1 :=
  h.map (moved k) fun _ _ hle => Nat.add_le_add_right hle k

theorem isScan_nil : IsScan [] [] where
  apart := .nil
  mem_iff := by
    intro m start stop
    refine iff_of_false (by simp) ?_
    rintro ⟨hfronts, -⟩
    exact absurd hfronts.head?_eq (by simp)

/-- Where no marker stands, a page is scanned from the next character on. -/
theorem IsScan.cons_plain {c : Char} {cs : List Char} {found : List (Marker × Nat × Nat)}
    (h : IsScan cs found) (hread : read? (c :: cs) = none) :
    IsScan (c :: cs) (found.map (moved 1)) where
  apart := apart_map_moved h.apart
  mem_iff := by
    intro m start stop
    cases start with
    | zero =>
        refine iff_of_false ?_ ?_
        · rw [Marker.mem_map_moved_iff]
          rintro ⟨_, _, hstart, -⟩
          omega
        · rintro ⟨hfronts, -⟩
          obtain ⟨rest, hread'⟩ := hfronts.exists_read?
          cases hread.symm.trans hread'
    | succ start => exact @IsScan.mem_map_moved_iff (c :: cs) 1 found h m start stop

/-- A marker at the front is found, and the page is scanned from behind it on. -/
theorem IsScan.cons_marker {m : Marker} {cs rest : List Char} {found : List (Marker × Nat × Nat)}
    (h : IsScan rest found) (hread : read? cs = some (m, rest)) :
    IsScan cs ((m, 0, m.chars.length) :: found.map (moved m.chars.length)) where
  apart := by
    refine List.pairwise_cons.mpr ⟨?_, apart_map_moved h.apart⟩
    rw [List.forall_mem_map]
    intro other _
    exact Nat.le_add_left _ _
  mem_iff := by
    intro m' start stop
    have hfronts := fronts_of_read? hread
    have hpos := m.length_chars_pos
    have hscan : IsScan (cs.drop m.chars.length) found := by
      rwa [read?_eq_some hread, List.drop_left]
    rw [List.mem_cons, List.forall_mem_cons]
    rcases Nat.lt_or_ge start m.chars.length with hlt | hge
    · have hnot : (m', start, stop) ∉ found.map (moved m.chars.length) := by
        rw [Marker.mem_map_moved_iff]
        rintro ⟨_, _, rfl, -⟩
        omega
      rw [or_iff_left hnot]
      rcases Nat.eq_zero_or_pos start with rfl | hstart
      · -- At the front stands `m` alone, and no block holds the first position.
        constructor
        · intro hsame
          cases hsame
          refine ⟨hfronts, (Nat.zero_add _).symm, ?_, ?_⟩
          · rintro ⟨hle, -⟩
            exact absurd hle (by simp [head])
          · rw [List.forall_mem_map]
            rintro other - ⟨hle, -⟩
            exact absurd hle (by simp [head, moved])
        · rintro ⟨hfronts', rfl, -⟩
          cases hfronts.unique hfronts'
          rw [Nat.zero_add]
      · refine iff_of_false ?_ ?_
        · intro hsame
          cases hsame
          exact absurd hstart (Nat.lt_irrefl 0)
        · rintro ⟨hfronts', -, hblock, -⟩
          exact hblock ⟨by simpa using hfronts.length_head_le hfronts' hstart, hlt⟩
    · obtain ⟨start, rfl⟩ := Nat.exists_eq_add_of_le' hge
      have hne : (m', start + m.chars.length, stop) ≠ (m, 0, m.chars.length) := by
        intro hsame
        have hstart := (Prod.mk.inj (Prod.mk.inj hsame).2).1
        omega
      have hblock : ¬ BlockHolds (m, 0, m.chars.length) (start + m.chars.length) := by
        rintro ⟨-, hlt⟩
        exact absurd hlt (by simp)
      rw [or_iff_right hne, hscan.mem_map_moved_iff, and_iff_right hblock]

theorem isScan_located (cs : List Char) :
    IsScan cs (Segment.located 0 (Segment.ofChars cs)) := by
  induction cs using Segment.ofChars.induct with
  | case1 cs m rest hread ih =>
      have hmoved := located_add m.chars.length 0 (Segment.ofChars rest)
      rw [Segment.ofChars_of_marker hread, Segment.located, hmoved, Nat.zero_add]
      exact ih.cons_marker hread
  | case2 hread =>
      rw [Segment.ofChars]
      exact isScan_nil
  | case3 c cs hread ih =>
      rw [Segment.ofChars_of_plain hread, Segment.located, located_add]
      exact ih.cons_plain hread

/-- A scan is in the order of its first positions. -/
theorem IsScan.pairwise_lt {page : List Char} {found : List (Marker × Nat × Nat)}
    (h : IsScan page found) : found.Pairwise fun earlier later => earlier.2.1 < later.2.1 := by
  refine h.apart.imp_of_mem ?_
  rintro ⟨m, start, stop⟩ other hmem - hle
  obtain ⟨-, rfl, -⟩ := (h.mem_iff m start stop).mp hmem
  have := m.length_chars_pos
  simp only at hle ⊢
  omega

/-- Two scans of a page agree at every position. Blocks that hold a position start in front of it, so
this goes by strong induction on the position. -/
theorem IsScan.mem_of_mem {page : List Char} {found found' : List (Marker × Nat × Nat)}
    (h : IsScan page found) (h' : IsScan page found') {start : Nat} :
    ∀ {m : Marker} {stop : Nat}, (m, start, stop) ∈ found → (m, start, stop) ∈ found' := by
  induction start using Nat.strongRecOn generalizing found found' with
  | _ start ih =>
      intro m stop hmem
      obtain ⟨hfronts, hstop, hblocks⟩ := (h.mem_iff m start stop).mp hmem
      refine (h'.mem_iff m start stop).mpr ⟨hfronts, hstop, ?_⟩
      rintro ⟨other, start', stop'⟩ hother hholds
      have hlt : start' < start := by
        have hle := hholds.1
        simp only [head, List.length_cons] at hle
        omega
      exact hblocks _ (ih start' hlt h' h hother) hholds

theorem IsScan.unique {page : List Char} {found found' : List (Marker × Nat × Nat)}
    (h : IsScan page found) (h' : IsScan page found') : found = found' := by
  have hasymm : Std.Antisymm fun earlier later : Marker × Nat × Nat => earlier.2.1 < later.2.1 :=
    ⟨fun _ _ hlt hgt => absurd hlt (Nat.lt_asymm hgt)⟩
  have hirrefl : Std.Irrefl fun earlier later : Marker × Nat × Nat => earlier.2.1 < later.2.1 :=
    ⟨fun _ => Nat.lt_irrefl _⟩
  refine h.pairwise_lt.eq_of_mem_iff h'.pairwise_lt ?_
  rintro ⟨m, start, stop⟩
  exact ⟨fun hmem => h.mem_of_mem h' hmem, fun hmem => h'.mem_of_mem h hmem⟩

/-- **The markers of a page are found exactly.** What `find` gives is a scan of the page, and a page
has no other scan. -/
theorem find_eq_iff_isScan (page : String) (found : List (Marker × Nat × Nat)) :
    find page = found ↔ IsScan page.toList found := by
  constructor
  · rintro rfl
    exact isScan_located page.toList
  · intro h
    exact (isScan_located page.toList).unique h

end Marker
end WikiDates
