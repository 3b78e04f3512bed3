import Mathlib.Data.List.Forall2
import Mathlib.Data.List.Nodup
import Mathlib.Data.List.TakeWhile
import WikiDates.CommandLine.Argument
import WikiDates.Proofs.Results

/-!
# What arguments are

    texts ──classifyAll──▶ arguments
      └──────SpellAll───────▲

`Argument.Spells` says what a single text of a command line is, with one rule for each kind of argument
and without a scan: a name is cut off at the equals sign, and it stands for the option of the only
spelling that begins so. `Argument.SpellAll` adds the separator, behind which everything is plain.

`Argument.classify_eq_ok_iff` and `Argument.classifyAll_eq_ok_iff` say that the classification is this
relation. What it is not defined for are the names that begin several spellings.
-/

namespace WikiDates.CommandLine

open Results

/-! ### Names of options -/

namespace Switch

variable {switch : Switch} {name : List Char} {c : Char}

/-- A long name stands for an option: just one spelling begins so, and it is one of the option. -/
def IsLongName (switch : Switch) (name : List Char) : Prop :=
  ['-', '-'] <+: name ∧
    ∃ spelling, ∀ entry, entry ∈ spellings ∧ name <+: entry.1.toList ↔ entry = (spelling, switch)

/-- A letter stands for an option: behind a dash, it is one of its spellings. -/
def IsLetter (switch : Switch) (c : Char) : Prop := (String.ofList ['-', c], switch) ∈ spellings

theorem ofSpelling?_eq_some_iff {spelling : String} :
    ofSpelling? spelling = some switch ↔ (spelling, switch) ∈ spellings := by
  constructor
  · intro h
    obtain ⟨before, after, hsplit, -⟩ := List.lookup_eq_some_iff.mp h
    rw [hsplit]
    exact List.mem_append_right before List.mem_cons_self
  · have hall : ∀ entry ∈ spellings, ofSpelling? entry.1 = some entry.2 := by decide
    exact hall (spelling, switch)

theorem ofLetter?_eq_some_iff : ofLetter? c = some switch ↔ switch.IsLetter c :=
  ofSpelling?_eq_some_iff

theorem ofLetter?_eq_none_iff : ofLetter? c = none ↔ ∀ switch : Switch, ¬ switch.IsLetter c := by
  simp only [← ofLetter?_eq_some_iff, Option.eq_none_iff_forall_ne_some, ne_eq]

theorem IsLetter.ne_dash (h : switch.IsLetter c) : c ≠ '-' := by
  rintro rfl
  have hnone : ofLetter? '-' = none := by decide
  exact ofLetter?_eq_none_iff.mp hnone switch h

theorem IsLetter.ne_equals (h : switch.IsLetter c) : c ≠ '=' := by
  rintro rfl
  have hnone : ofLetter? '=' = none := by decide
  exact ofLetter?_eq_none_iff.mp hnone switch h

/-- Characters stand for options, one by one. -/
def AreLetters : List Char → List Switch → Prop :=
  List.Forall₂ fun c switch => switch.IsLetter c

theorem AreLetters.unique {cs : List Char} {switches switches' : List Switch}
    (h : AreLetters cs switches) (h' : AreLetters cs switches') : switches = switches' := by
  have hletter : Relator.RightUnique fun c (switch : Switch) => switch.IsLetter c := by
    intro c switch switch' hswitch hswitch'
    rw [← ofLetter?_eq_some_iff] at hswitch hswitch'
    exact Option.some.inj (hswitch.symm.trans hswitch')
  exact hletter.forall₂ h h'

end Switch

namespace Argument

variable {name : List Char}

/-- No spelling begins another one. -/
theorem eq_of_prefix_spelling {entry entry' : String × Switch} (h : entry ∈ Switch.spellings)
    (h' : entry' ∈ Switch.spellings) (hbegins : entry.1.toList <+: entry'.1.toList) :
    entry' = entry := by
  have hall : ∀ entry ∈ Switch.spellings, ∀ entry' ∈ Switch.spellings,
      entry.1.toList <+: entry'.1.toList → entry' = entry := by decide
  exact hall entry h entry' h' hbegins

theorem mem_meanings_iff {entry : String × Switch} :
    entry ∈ meanings name ↔ entry ∈ Switch.spellings ∧ name <+: entry.1.toList := by
  unfold meanings
  split
  · next switch hname =>
      -- The name is spelled out, so no other spelling begins with it.
      have hmem := Switch.ofSpelling?_eq_some_iff.mp hname
      rw [List.mem_singleton]
      constructor
      · rintro rfl
        exact ⟨hmem, by simp only [String.toList_ofList, List.prefix_rfl]⟩
      · rintro ⟨hentry, hbegins⟩
        rw [← String.toList_ofList (l := name)] at hbegins
        exact eq_of_prefix_spelling hmem hentry hbegins
  · rw [List.mem_filter, List.isPrefixOf_iff_prefix]

theorem nodup_meanings (name : List Char) : (meanings name).Nodup := by
  unfold meanings
  split
  · exact List.nodup_singleton _
  · have hspellings : Switch.spellings.Nodup := by decide
    exact hspellings.filter _

theorem meanings_eq_nil_iff :
    meanings name = [] ↔ ∀ entry ∈ Switch.spellings, ¬ name <+: entry.1.toList := by
  simp only [List.eq_nil_iff_forall_not_mem, mem_meanings_iff, not_and]

theorem meanings_eq_singleton_iff {entry : String × Switch} :
    meanings name = [entry] ↔
      ∀ entry', entry' ∈ Switch.spellings ∧ name <+: entry'.1.toList ↔ entry' = entry := by
  rw [← List.perm_singleton,
    List.perm_ext_iff_of_nodup (nodup_meanings name) (List.nodup_singleton entry)]
  simp only [mem_meanings_iff, List.mem_singleton]

/-! ### Single arguments -/

/-- A text is a name, with a value behind an equals sign if there is one. -/
inductive IsCut (cs : List Char) : List Char → Option (List Char) → Prop where
  | name : '=' ∉ cs → IsCut cs cs none
  | value {name value : List Char} : '=' ∉ name → cs = name ++ '=' :: value →
      IsCut cs name (some value)

/-- A text with a dash in front stands for no option. -/
inductive IsForeign (cs : List Char) : Prop where
  /-- Its name begins no spelling. -/
  | long {name : List Char} {value : Option (List Char)} : IsCut cs name value →
      ['-', '-'] <+: name → (∀ entry ∈ Switch.spellings, ¬ name <+: entry.1.toList) → IsForeign cs
  /-- Its letter is no short spelling. -/
  | short {letter : Char} {attached : List Char} : cs = '-' :: letter :: attached →
      letter ≠ '-' → (∀ switch : Switch, ¬ switch.IsLetter letter) → IsForeign cs

/-- What a text is, in front of the separator. -/
inductive Spells (text : String) : Argument → Prop where
  /-- A long name of an option, with the value that is attached to it. -/
  | long {name : List Char} {value : Option (List Char)} {switch : Switch} :
      IsCut text.toList name value → switch.IsLongName name →
      Spells text (.long switch (value.map String.ofList))
  /-- A letter of an option. -/
  | letter {c : Char} {switch : Switch} : text.toList = ['-', c] → switch.IsLetter c →
      Spells text (.long switch none)
  /-- A letter of an option, with something attached to it. -/
  | attached {c : Char} {attached : List Char} {switch : Switch} :
      text.toList = '-' :: c :: attached → attached ≠ [] → switch.IsLetter c →
      Spells text (.short switch attached)
  /-- Plain text is what does not start with a dash, and the dash alone. -/
  | plain : (∀ c cs, text.toList ≠ '-' :: c :: cs) → Spells text (.plain text)
  /-- So is a negative number, and whatever holds a space, if it stands for no option. -/
  | foreign : IsForeign text.toList → isNegativeNumber text.toList = true ∨ ' ' ∈ text.toList →
      Spells text (.plain text)
  /-- Anything else that stands for no option is unknown. -/
  | unknown : IsForeign text.toList → isNegativeNumber text.toList = false → ' ' ∉ text.toList →
      Spells text (.unknown text)

variable {text : String} {argument : Argument} {cs : List Char} {value : Option (List Char)}

theorem isCut_cutValue (cs : List Char) : IsCut cs (cutValue cs).1 (cutValue cs).2 := by
  have hname : '=' ∉ cs.takeWhile (· != '=') := fun hmem => by
    simpa using List.mem_takeWhile_imp hmem
  have hcs : cs.takeWhile (· != '=') ++ cs.dropWhile (· != '=') = cs :=
    List.takeWhile_append_dropWhile
  unfold cutValue
  split
  · next hrest =>
      rw [hrest, List.append_nil] at hcs
      rw [hcs] at hname
      exact .name hname
  · next c rest hrest =>
      have hc := List.head?_dropWhile_not (· != '=') cs
      rw [hrest] at hc hcs
      obtain rfl : c = '=' := by simpa using hc
      exact .value hname hcs.symm

theorem IsCut.cutValue_eq (h : IsCut cs name value) : cutValue cs = (name, value) := by
  -- The scan passes over a name.
  have hpass : ∀ {a : List Char}, '=' ∉ a → ∀ c ∈ a, (c != '=') = true :=
    fun ha c hc => bne_iff_ne.mpr (ne_of_mem_of_not_mem hc ha)
  unfold cutValue
  cases h with
  | name hname => rw [List.dropWhile_eq_nil_iff.mpr (hpass hname)]
  | @value _ rest hname hcs =>
      have hdrop : cs.dropWhile (· != '=') = '=' :: rest := by
        rw [hcs, List.dropWhile_append_of_pos (hpass hname)]
        rfl
      have htake : cs.takeWhile (· != '=') = name := by
        rw [hcs, List.takeWhile_append_of_pos (hpass hname)]
        exact List.append_nil name
      rw [hdrop, htake]

theorem IsCut.name_prefix (h : IsCut cs name value) : name <+: cs := by
  cases h with
  | name => exact List.prefix_rfl
  | value _ hcs => exact ⟨_, hcs.symm⟩

/-- No equals sign stands in the dashes of a name. -/
theorem IsCut.dashes (h : IsCut cs name value) (hcs : ['-', '-'] <+: cs) : ['-', '-'] <+: name := by
  cases h with
  | name => exact hcs
  | value hname hsplit =>
      -- With less than two characters in the name, one of the dashes would be the equals sign.
      obtain ⟨rest, hrest⟩ := hcs
      rw [hsplit] at hrest
      match name with
      | [] => cases hrest
      | [_] => cases hrest
      | _ :: _ :: name =>
          cases hrest
          exact ⟨name, rfl⟩

theorem spells_classifyOther (h : IsForeign text.toList) : Spells text (classifyOther text) := by
  unfold classifyOther
  split
  · next hplain => exact .foreign h (by simpa using hplain)
  · next hplain =>
      rw [Bool.not_eq_true, Bool.or_eq_false_iff] at hplain
      exact .unknown h hplain.1 (by simpa using hplain.2)

theorem spells_of_classifyLong (hdashes : ['-', '-'] <+: text.toList)
    (h : classifyLong text = .ok argument) : Spells text argument := by
  have hcut := isCut_cutValue text.toList
  unfold classifyLong at h
  generalize cutValue text.toList = cut at h hcut
  obtain ⟨name, value⟩ := cut
  dsimp only at h hcut
  split at h
  · next hnone =>
      cases h
      exact spells_classifyOther
        (.long hcut (hcut.dashes hdashes) (meanings_eq_nil_iff.mp hnone))
  · next spelling switch hone =>
      cases h
      exact .long hcut ⟨hcut.dashes hdashes, spelling, meanings_eq_singleton_iff.mp hone⟩
  · cases h

theorem spells_classifyShort {c : Char} {attached : List Char}
    (htext : text.toList = '-' :: c :: attached) (hc : c ≠ '-') :
    Spells text (classifyShort text c attached) := by
  unfold classifyShort
  split
  · next hnone =>
      exact spells_classifyOther (.short htext hc (Switch.ofLetter?_eq_none_iff.mp hnone))
  · next switch hswitch =>
      have hletter := Switch.ofLetter?_eq_some_iff.mp hswitch
      split
      · next hattached =>
          rw [hattached] at htext
          exact .letter htext hletter
      · next hattached => exact .attached htext hattached hletter

theorem classify_of_dashes (h : ['-', '-'] <+: text.toList) : classify text = classifyLong text := by
  obtain ⟨rest, hrest⟩ := h
  unfold classify
  rw [← hrest]
  rfl

theorem classify_of_letter {c : Char} {attached : List Char}
    (htext : text.toList = '-' :: c :: attached) (hc : c ≠ '-') :
    classify text = .ok (classifyShort text c attached) := by
  unfold classify
  rw [htext]
  split
  · next hcs =>
      cases hcs
      exact absurd rfl hc
  · next hcs =>
      cases hcs
      rfl
  · next hcs => exact absurd rfl (hcs c attached)

theorem IsForeign.classify_eq (h : IsForeign text.toList) :
    classify text = .ok (classifyOther text) := by
  cases h with
  | long hcut hdashes hnone =>
      rw [classify_of_dashes (hdashes.trans hcut.name_prefix)]
      unfold classifyLong
      rw [hcut.cutValue_eq]
      simp only [meanings_eq_nil_iff.mpr hnone]
  | short htext hdash hnone =>
      rw [classify_of_letter htext hdash, classifyShort, Switch.ofLetter?_eq_none_iff.mpr hnone]

/-- **What a single text is.** -/
theorem classify_eq_ok_iff : classify text = .ok argument ↔ Spells text argument := by
  constructor
  · intro h
    unfold classify at h
    split at h
    · next rest htext => exact spells_of_classifyLong ⟨rest, htext.symm⟩ h
    · next c attached hdash htext =>
        cases h
        exact spells_classifyShort htext fun hc => hdash (hc ▸ rfl)
    · next hshort =>
        cases h
        exact .plain hshort
  · intro h
    cases h with
    | long hcut hname =>
        obtain ⟨hdashes, spelling, hone⟩ := hname
        rw [classify_of_dashes (hdashes.trans hcut.name_prefix)]
        unfold classifyLong
        rw [hcut.cutValue_eq]
        simp only [meanings_eq_singleton_iff.mpr hone]
    | letter htext hletter =>
        rw [classify_of_letter htext hletter.ne_dash, classifyShort,
          Switch.ofLetter?_eq_some_iff.mpr hletter]
        rfl
    | attached htext hattached hletter =>
        rw [classify_of_letter htext hletter.ne_dash, classifyShort,
          Switch.ofLetter?_eq_some_iff.mpr hletter]
        simp only [if_neg hattached]
    | plain hshort =>
        unfold classify
        split
        · next rest htext => exact absurd htext (hshort '-' rest)
        · next c attached _ htext => exact absurd htext (hshort c attached)
        · rfl
    | foreign hforeign hplain =>
        rw [hforeign.classify_eq, classifyOther, if_pos (by simpa using hplain)]
    | unknown hforeign hnumber hspace =>
        rw [hforeign.classify_eq, classifyOther, if_neg (by simp [hnumber, hspace])]

/-- The beginning of a spelling is enough, if no other spelling begins so. -/
example : classify "--loc=fr_FR" = .ok (.long .locale (some "fr_FR")) := by decide

/-! ### All arguments -/

/-- What the texts of a command line are. Behind the first separator, all of them are plain. -/
inductive SpellAll : List String → List Argument → Prop where
  | nil : SpellAll [] []
  | separator (texts : List String) : SpellAll ("--" :: texts) (.separator :: texts.map .plain)
  | cons {text : String} {argument : Argument} {texts : List String} {arguments : List Argument} :
      Spells text argument → SpellAll texts arguments →
      SpellAll (text :: texts) (argument :: arguments)

/-- The separator is nothing else: its two dashes begin several spellings. -/
theorem Spells.ne_separator (h : Spells text argument) : text ≠ "--" := by
  rintro rfl
  have hnone : (classify "--").toOption = none := by decide
  rw [classify_eq_ok_iff.mpr h] at hnone
  cases hnone

/-- **What the texts of a command line are.** -/
theorem classifyAll_eq_ok_iff {texts : List String} {arguments : List Argument} :
    classifyAll texts = .ok arguments ↔ SpellAll texts arguments := by
  constructor
  · intro h
    induction texts generalizing arguments with
    | nil =>
        cases h
        exact .nil
    | cons text texts ih =>
        unfold classifyAll at h
        split at h
        · next hseparator =>
            cases h
            rw [hseparator]
            exact .separator texts
        · obtain ⟨argument, hargument, h⟩ := bind_eq_ok_iff.mp h
          obtain ⟨arguments, harguments, h⟩ := bind_eq_ok_iff.mp h
          cases h
          exact .cons (classify_eq_ok_iff.mp hargument) (ih harguments)
  · intro h
    induction h with
    | nil => rfl
    | separator texts => rfl
    | cons hargument _ ih =>
        rw [classifyAll, if_neg hargument.ne_separator, classify_eq_ok_iff.mpr hargument, ih]
        rfl

end Argument
end WikiDates.CommandLine
