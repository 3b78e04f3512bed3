import WikiDates.Settings
import WikiDates.Proofs.Results

/-!
# Settings that are accepted

A dictionary of settings is merged over the defaults before it is checked entry by entry. Whatever
settings come out of that can be used: both formats are date patterns, the locale is known, and the
base is an instant or left out.
-/

namespace WikiDates.Settings

open Results

/-- The settings that a dictionary stands for, once it is accepted. -/
def IsAccepted (s : Settings) : Prop := ∃ entries, ofArgument (.dict entries) = .ok s

/-- Settings that can be used. -/
structure IsUsable (s : Settings) : Prop where
  dateFormat : ∃ p, readPattern s.dateFormat = .ok p
  datetimeFormat : ∃ p, readPattern s.datetimeFormat = .ok p
  locale : ∃ l, readLocale s.locale = .ok l
  base : s.base = .null ∨ ∃ x, s.base = .instant x

/-- The value of a format is accepted if it is a text that is a pattern. -/
theorem checkPattern_eq_ok_iff {name : String} {v : Value} :
    checkPattern name v = .ok () ↔ ∃ text p, v = .text text ∧ Pattern.parse text = .ok p := by
  constructor
  · intro h
    unfold checkPattern at h
    split at h
    · next text =>
        split at h
        · next p hp => exact ⟨text, p, rfl, hp⟩
        · cases h
    · cases h
  · rintro ⟨text, p, rfl, hp⟩
    simp only [checkPattern, hp]

/-- The value of the locale is accepted if it is a text that names one. -/
theorem checkLocale_eq_ok_iff {name : String} {v : Value} :
    checkLocale name v = .ok () ↔ ∃ text l, v = .text text ∧ Locale.parse text = .ok l := by
  constructor
  · intro h
    unfold checkLocale at h
    split at h
    · next text =>
        split at h
        · next l hl => exact ⟨text, l, rfl, hl⟩
        · cases h
    · cases h
  · rintro ⟨text, l, rfl, hl⟩
    simp only [checkLocale, hl]

theorem exists_readPattern_of_checkPattern {key : String} {v : Value}
    (h : checkPattern key v = .ok ()) : ∃ p, readPattern v = .ok p := by
  obtain ⟨text, p, rfl, hp⟩ := checkPattern_eq_ok_iff.mp h
  exact ⟨p, mapError_eq_ok_iff.mpr hp⟩

theorem exists_readLocale_of_checkLocale {key : String} {v : Value}
    (h : checkLocale key v = .ok ()) : ∃ l, readLocale v = .ok l := by
  obtain ⟨text, l, rfl, hl⟩ := checkLocale_eq_ok_iff.mp h
  exact ⟨l, mapError_eq_ok_iff.mpr hl⟩

theorem base_of_checkBase {v : Value} (h : checkBase v = .ok ()) :
    v = .null ∨ ∃ x, v = .instant x := by
  unfold checkBase at h
  split at h
  · exact Or.inl rfl
  · next x => exact Or.inr ⟨x, rfl⟩
  · cases h

/-- The default settings can be used. -/
theorem isUsable_default : IsUsable {} where
  dateFormat := exists_of_isOk (by decide +kernel)
  datetimeFormat := exists_of_isOk (by decide +kernel)
  locale := exists_of_isOk (by decide +kernel)
  base := Or.inl rfl

/-- An accepted entry keeps settings usable. -/
theorem IsUsable.set {s : Settings} (h : s.IsUsable) {entry : String × Value}
    (hentry : checkEntry entry = .ok ()) : (s.set entry).IsUsable := by
  unfold checkEntry at hentry
  unfold Settings.set
  cases hkey : SettingKey.ofName? entry.1 with
  | none => exact h
  | some key =>
      rw [hkey] at hentry
      cases key with
      | dateFormat => exact { h with dateFormat := exists_readPattern_of_checkPattern hentry }
      | datetimeFormat =>
          exact { h with datetimeFormat := exists_readPattern_of_checkPattern hentry }
      | locale => exact { h with locale := exists_readLocale_of_checkLocale hentry }
      | base => exact { h with base := base_of_checkBase hentry }

theorem IsUsable.merge {entries : SettingEntries}
    (h : ∀ entry ∈ entries, checkEntry entry = .ok ()) : (merge {} entries).IsUsable := by
  have hfold : ∀ s : Settings, s.IsUsable → (entries.foldl Settings.set s).IsUsable := by
    induction entries with
    | nil => exact fun _ hs => hs
    | cons entry entries ih =>
        intro s hs
        rw [List.forall_mem_cons] at h
        exact ih h.2 _ (hs.set h.1)
  obtain ⟨hdate, hdatetime, hlocale, hbase⟩ := hfold {} isUsable_default
  exact ⟨hdate, hdatetime, hlocale, hbase⟩

/-- **Accepted settings can be used.** -/
theorem IsAccepted.isUsable {s : Settings} (h : s.IsAccepted) : s.IsUsable := by
  obtain ⟨entries, h⟩ := h
  unfold ofArgument at h
  split at h
  · cases h
    exact isUsable_default
  · dsimp only at h
    split at h
    · cases h
    · obtain ⟨merged, hmerged, h⟩ := bind_eq_ok_iff.mp h
      obtain ⟨_, hcheck, h⟩ := bind_eq_ok_iff.mp h
      cases h
      obtain ⟨_, -, hentries⟩ := bind_eq_ok_iff.mp (mapError_eq_ok_iff.mp hcheck)
      -- The entries are checked one by one, so it is from them that the settings are built up.
      have hmerge : s = merge {} entries := by
        unfold replace at hmerged
        dsimp only at hmerged
        split at hmerged
        · cases hmerged
        · obtain ⟨_, -, hmerged⟩ := bind_eq_ok_iff.mp hmerged
          cases hmerged
          rfl
      rw [hmerge]
      exact IsUsable.merge (forM_eq_ok_iff.mp hentries)

end WikiDates.Settings
