import WikiDates.Proofs.AcceptedSettings
import WikiDates.Session

/-!
# Dictionaries of settings

A dictionary is refused in one of two ways. Its entries become those of a record first, and three
names are fixed there: an entry under one of them ends that at once, unless it can be kept
(`Settings.KeepsFixed`). Only then are the entries checked, so every other dictionary is accepted
exactly if all its entries are valid, and what refuses it is an entry that the failure names.

`Settings.IsValidEntry` says which entries are valid and `Settings.IsCulprit` which entry is named:
the first with an unknown name, if there is one, and else the first that is not valid.
-/

namespace WikiDates

open Results

/-! ### Names -/

namespace SettingKey

/-- The name of a setting. -/
def name : SettingKey → String
  | dateFormat => "DATE_FORMAT"
  | datetimeFormat => "DATETIME_FORMAT"
  | locale => "LOCALE"
  | base => "RELATIVE_BASE"

theorem ofName?_eq_some_iff {s : String} {key : SettingKey} :
    ofName? s = some key ↔ key.name = s := by
  constructor
  · intro h
    unfold ofName? at h
    split at h
    · cases h
      rfl
    · cases h
      rfl
    · cases h
      rfl
    · cases h
      rfl
    · cases h
  · rintro rfl
    cases key with
    | dateFormat | datetimeFormat | locale | base => rfl

theorem name_injective {key key' : SettingKey} (h : key.name = key'.name) : key = key' := by
  have hkey := ofName?_eq_some_iff.mpr h
  rw [ofName?_eq_some_iff.mpr rfl] at hkey
  exact (Option.some.inj hkey).symm

end SettingKey

/-- The names that every record keeps for itself. -/
def Settings.fixedNames : List String := ["__class__", "__dict__", "__weakref__"]

/-- The entry does not touch a fixed name, or puts a dictionary where a dictionary is. -/
def Settings.KeepsFixed (entry : String × Value) : Prop :=
  entry.1 ∉ fixedNames ∨ entry.1 = "__dict__" ∧ ∃ entries, entry.2 = .dict entries

namespace SettingEntries

/-- The names of the entries of a dictionary. -/
def names (d : SettingEntries) : List String := d.map Prod.fst

/-- The dictionary holds something, and can be given as named arguments: its names are distinct, and
two names are taken. -/
structure AreArguments (d : SettingEntries) : Prop where
  nonempty : d ≠ []
  distinct : d.names.Nodup
  self : "self" ∉ d.names
  mod_settings : "mod_settings" ∉ d.names

theorem AreArguments.perm {d d' : SettingEntries} (h : d.AreArguments) (hperm : d'.Perm d) :
    d'.AreArguments where
  nonempty := fun hnil => h.nonempty (hnil ▸ hperm).nil_eq.symm
  distinct := (hperm.map Prod.fst).nodup_iff.mpr h.distinct
  self := fun hself => h.self ((hperm.map Prod.fst).mem_iff.mp hself)
  mod_settings := fun hmod => h.mod_settings ((hperm.map Prod.fst).mem_iff.mp hmod)

/-- The dictionary keeps the record that it becomes. No entry is refused under a fixed name; and as
an entry `__dict__` takes the place of all others of a record, it does not come with one under the
name by which a record knows what is to be checked. -/
structure KeepsRecord (d : SettingEntries) : Prop where
  entries : ∀ entry ∈ d, Settings.KeepsFixed entry
  checked : "__dict__" ∈ d.names → "_mod_settings" ∉ d.names

theorem KeepsRecord.perm {d d' : SettingEntries} (h : d.KeepsRecord) (hperm : d'.Perm d) :
    d'.KeepsRecord where
  entries := fun entry hentry => h.entries entry (hperm.mem_iff.mp hentry)
  checked := fun hdict hmod =>
    h.checked ((hperm.map Prod.fst).mem_iff.mp hdict) ((hperm.map Prod.fst).mem_iff.mp hmod)

theorem lookup_eq_none_of_not_mem {d : SettingEntries} {name : String} (h : name ∉ d.names) :
    d.lookup name = none := by
  rw [List.lookup_eq_none_iff]
  intro entry hentry
  rw [bne_iff_ne]
  rintro rfl
  exact h (List.mem_map_of_mem hentry)

end SettingEntries

/-- The name of the entry that a fault is about. -/
def SettingFault.entryName : SettingFault → String
  | unknownKey key => key
  | wrongKind key .. => key
  | notBase _ => "RELATIVE_BASE"
  | notPattern key _ => key
  | notLocale .. => "LOCALE"

/-- The report of a fault starts with the name of its entry. -/
theorem SettingFault.message_eq (fault : SettingFault) :
    ∃ rest, fault.message = "\"" ++ fault.entryName ++ "\"" ++ rest := by
  cases fault with
  | unknownKey key =>
      have hsplit : "\" is not a valid setting" = "\"" ++ " is not a valid setting" := by decide
      refine ⟨" is not a valid setting", ?_⟩
      show "\"" ++ key ++ _ = "\"" ++ key ++ _ ++ _
      simp only [hsplit, String.append_assoc]
  | wrongKind key wanted found =>
      have hsplit : "\" must be \"" = "\"" ++ " must be \"" := by decide
      refine ⟨" must be \"" ++ wanted ++ "\", not \"" ++ found ++ "\".", ?_⟩
      show "\"" ++ key ++ "\" must be \"" ++ wanted ++ _ ++ found ++ _ = "\"" ++ key ++ _ ++ _
      simp only [hsplit, String.append_assoc]
  | notBase found =>
      have hsplit : "\"RELATIVE_BASE\" must be \"datetime\" or None, not \"" =
          "\"" ++ "RELATIVE_BASE" ++ "\"" ++ " must be \"datetime\" or None, not \"" := by decide
      refine ⟨" must be \"datetime\" or None, not \"" ++ found ++ "\".", ?_⟩
      show "\"RELATIVE_BASE\" must be \"datetime\" or None, not \"" ++ found ++ _ =
        "\"" ++ "RELATIVE_BASE" ++ _ ++ _
      simp only [hsplit, String.append_assoc]
  | notPattern key fault =>
      have hsplit : "\" is not a valid date pattern: " =
          "\"" ++ " is not a valid date pattern: " := by decide
      refine ⟨" is not a valid date pattern: " ++ fault.message, ?_⟩
      show "\"" ++ key ++ "\" is not a valid date pattern: " ++ _ = "\"" ++ key ++ _ ++ _
      simp only [hsplit, String.append_assoc]
  | notLocale text fault =>
      have hsplit : "\"LOCALE\": " = "\"" ++ "LOCALE" ++ "\"" ++ ": " := by decide
      refine ⟨": " ++ fault.report text, ?_⟩
      show "\"LOCALE\": " ++ _ = "\"" ++ "LOCALE" ++ _ ++ _
      simp only [hsplit, String.append_assoc]

namespace Settings

variable {d : SettingEntries} {entry : String × Value} {fault : SettingFault}

/-! ### One entry -/

/-- The name of the entry is that of a setting. -/
def IsKnown (entry : String × Value) : Prop := ∃ key : SettingKey, key.name = entry.1

/-- The entry is that of a setting, with a value that the setting may have. -/
inductive IsValidEntry : String × Value → Prop
  | dateFormat {text p} : Pattern.parse text = .ok p → IsValidEntry ("DATE_FORMAT", .text text)
  | datetimeFormat {text p} :
      Pattern.parse text = .ok p → IsValidEntry ("DATETIME_FORMAT", .text text)
  | locale {text l} : Locale.parse text = .ok l → IsValidEntry ("LOCALE", .text text)
  | noBase : IsValidEntry ("RELATIVE_BASE", .null)
  | base (x : Instant) : IsValidEntry ("RELATIVE_BASE", .instant x)

theorem IsValidEntry.isKnown (h : IsValidEntry entry) : IsKnown entry := by
  cases h with
  | dateFormat _ => exact ⟨.dateFormat, rfl⟩
  | datetimeFormat _ => exact ⟨.datetimeFormat, rfl⟩
  | locale _ => exact ⟨.locale, rfl⟩
  | noBase => exact ⟨.base, rfl⟩
  | base x => exact ⟨.base, rfl⟩

theorem checkKey_eq_ok_iff : checkKey entry = .ok () ↔ IsKnown entry := by
  unfold checkKey IsKnown
  simp only [← SettingKey.ofName?_eq_some_iff, ← Option.isSome_iff_exists]
  split
  · next h => exact iff_of_true rfl h
  · next h => exact iff_of_false (by simp) h

theorem checkKey_eq_error_iff :
    checkKey entry = .error fault ↔ ¬ IsKnown entry ∧ fault = .unknownKey entry.1 := by
  rw [← checkKey_eq_ok_iff]
  unfold checkKey
  split
  · simp
  · simp [eq_comm]

/-- An entry with the name of a setting is accepted if it is valid. -/
theorem checkEntry_eq_ok_iff (h : IsKnown entry) :
    checkEntry entry = .ok () ↔ IsValidEntry entry := by
  obtain ⟨name, v⟩ := entry
  obtain ⟨key, rfl⟩ := h
  constructor
  · intro hcheck
    unfold checkEntry at hcheck
    rw [SettingKey.ofName?_eq_some_iff.mpr rfl] at hcheck
    cases key with
    | dateFormat =>
        obtain ⟨text, p, rfl, hp⟩ := checkPattern_eq_ok_iff.mp hcheck
        exact .dateFormat hp
    | datetimeFormat =>
        obtain ⟨text, p, rfl, hp⟩ := checkPattern_eq_ok_iff.mp hcheck
        exact .datetimeFormat hp
    | locale =>
        obtain ⟨text, l, rfl, hl⟩ := checkLocale_eq_ok_iff.mp hcheck
        exact .locale hl
    | base =>
        rcases base_of_checkBase hcheck with rfl | ⟨x, rfl⟩
        · exact .noBase
        · exact .base x
  · intro hvalid
    generalize hentry : (key.name, v) = entry at hvalid
    cases hvalid with
    | dateFormat hp => exact checkPattern_eq_ok_iff.mpr ⟨_, _, rfl, hp⟩
    | datetimeFormat hp => exact checkPattern_eq_ok_iff.mpr ⟨_, _, rfl, hp⟩
    | @locale text l hl =>
        have hcheck : checkLocale "LOCALE" (.text text) = .ok () :=
          checkLocale_eq_ok_iff.mpr ⟨text, l, rfl, hl⟩
        exact hcheck
    | noBase => rfl
    | base x => rfl

theorem entryName_of_checkPattern {name : String} {v : Value}
    (h : checkPattern name v = .error fault) : fault.entryName = name := by
  unfold checkPattern at h
  split at h
  · split at h
    · cases h
    · cases h
      rfl
  · cases h
    rfl

/-- A value that is refused is refused under the name of its entry. -/
theorem entryName_of_checkEntry (h : checkEntry entry = .error fault) :
    fault.entryName = entry.1 := by
  unfold checkEntry at h
  cases hkey : SettingKey.ofName? entry.1 with
  | none =>
      rw [hkey] at h
      cases h
  | some key =>
      rw [hkey] at h
      have hname := SettingKey.ofName?_eq_some_iff.mp hkey
      cases key with
      | dateFormat => exact entryName_of_checkPattern h
      | datetimeFormat => exact entryName_of_checkPattern h
      | locale =>
          dsimp only [checkLocale] at h
          split at h
          · split at h
            · cases h
            · cases h
              exact hname
          · cases h
            rfl
      | base =>
          dsimp only [checkBase] at h
          split at h
          · cases h
          · cases h
          · cases h
            exact hname

/-! ### The entries of a dictionary -/

/-- The entry that a dictionary is refused for. -/
inductive IsCulprit (d : SettingEntries) : String × Value → Prop
  /-- The first entry with an unknown name, whatever the values are. -/
  | unknown {before entry after} : d = before ++ entry :: after → ¬ IsKnown entry →
      (∀ entry' ∈ before, IsKnown entry') → IsCulprit d entry
  /-- If all names are known, the first entry that is not valid. -/
  | invalid {before entry after} : (∀ entry' ∈ d, IsKnown entry') → d = before ++ entry :: after →
      ¬ IsValidEntry entry → (∀ entry' ∈ before, IsValidEntry entry') → IsCulprit d entry

/-- A dictionary passes the check exactly if its entries are valid. -/
theorem check_eq_ok_iff : check d = .ok () ↔ ∀ entry ∈ d, IsValidEntry entry := by
  unfold check
  rw [bind_eq_ok_iff]
  constructor
  · rintro ⟨_, hnames, hvalues⟩ entry hentry
    have hknown := checkKey_eq_ok_iff.mp (forM_eq_ok_iff.mp hnames entry hentry)
    exact (checkEntry_eq_ok_iff hknown).mp (forM_eq_ok_iff.mp hvalues entry hentry)
  · intro hvalid
    refine ⟨(), forM_eq_ok_iff.mpr ?_, forM_eq_ok_iff.mpr ?_⟩
    · intro entry hentry
      exact checkKey_eq_ok_iff.mpr (hvalid entry hentry).isKnown
    · intro entry hentry
      exact (checkEntry_eq_ok_iff (hvalid entry hentry).isKnown).mpr (hvalid entry hentry)

/-- A dictionary that fails the check does so for the culprit, and by its name. -/
theorem exists_culprit_of_check (h : check d = .error fault) :
    ∃ entry, IsCulprit d entry ∧ fault.entryName = entry.1 := by
  unfold check at h
  rcases bind_eq_error_iff.mp h with h | ⟨_, hnames, h⟩
  · obtain ⟨before, entry, after, hd, hfail, hbefore⟩ := forM_eq_error_iff.mp h
    obtain ⟨hunknown, rfl⟩ := checkKey_eq_error_iff.mp hfail
    refine ⟨entry, .unknown hd hunknown ?_, rfl⟩
    intro entry' h'
    exact checkKey_eq_ok_iff.mp (hbefore entry' h')
  · have hknown : ∀ entry ∈ d, IsKnown entry := fun entry hentry =>
      checkKey_eq_ok_iff.mp (forM_eq_ok_iff.mp hnames entry hentry)
    obtain ⟨before, entry, after, hd, hfail, hbefore⟩ := forM_eq_error_iff.mp h
    have hmem : ∀ entry' ∈ before ++ [entry], entry' ∈ d := by
      intro entry' h'
      rw [hd, List.append_cons]
      exact List.mem_append_left after h'
    refine ⟨entry, .invalid hknown hd ?_ ?_, entryName_of_checkEntry hfail⟩
    · intro hvalid
      have hentry := hknown entry (hmem entry (by simp))
      rw [(checkEntry_eq_ok_iff hentry).mpr hvalid] at hfail
      cases hfail
    · intro entry' h'
      have hentry := hknown entry' (hmem entry' (by simp [h']))
      exact (checkEntry_eq_ok_iff hentry).mp (hbefore entry' h')

/-! ### Names that are fixed -/

theorem checkFixed_eq_ok_iff : checkFixed entry = .ok () ↔ KeepsFixed entry := by
  unfold checkFixed KeepsFixed
  split
  · next entries hname hv => exact iff_of_true rfl (Or.inr ⟨hname, entries, hv⟩)
  · next hname => simp [hname, fixedNames]
  · next hname hno =>
      have hdict : ¬ ∃ entries, entry.2 = .dict entries := fun ⟨entries, hv⟩ => hno entries hv
      simp [hname, hdict, fixedNames]
  · next hname => simp [hname, fixedNames]
  · next hclass hdict hweakref _ =>
      refine iff_of_true rfl (Or.inl ?_)
      simpa [fixedNames] using ⟨hclass, hdict, hweakref⟩

/-- The failure of an entry under a fixed name tells its name and the kind of its value. -/
theorem checkFixed_eq_error (h : ¬ KeepsFixed entry) :
    checkFixed entry = .error (.fixedName entry.1 entry.2.fullKind) := by
  rw [← checkFixed_eq_ok_iff] at h
  revert h
  unfold checkFixed
  split
  · exact fun h => absurd rfl h
  · exact fun _ => rfl
  · exact fun _ => rfl
  · exact fun _ => rfl
  · exact fun h => absurd rfl h

/-- What becomes of a dictionary, once its entries can be those of a record. -/
theorem ofArgument_dict (h : d.AreArguments) :
    ofArgument (.dict d) = (do
      d.forM checkFixed
      (check d).mapError .setting
      pure (merge {} d)) := by
  have hself : d.lookup "self" = none := SettingEntries.lookup_eq_none_of_not_mem h.self
  have hmod : d.lookup "mod_settings" = none :=
    SettingEntries.lookup_eq_none_of_not_mem h.mod_settings
  have hvoid : (Value.dict d).isVoid = false := by
    simpa [Value.isVoid] using h.nonempty
  unfold ofArgument replace
  simp [hvoid, hself, hmod]

/-- The first entry that cannot be kept under a fixed name decides the failure. -/
theorem ofArgument_of_fixed (h : d.AreArguments) {before after : SettingEntries}
    (hd : d = before ++ entry :: after) (hentry : ¬ KeepsFixed entry)
    (hbefore : ∀ entry' ∈ before, KeepsFixed entry') :
    ofArgument (.dict d) = .error (.fixedName entry.1 entry.2.fullKind) := by
  have hfixed : d.forM checkFixed = .error (.fixedName entry.1 entry.2.fullKind) :=
    forM_eq_error_iff.mpr ⟨before, entry, after, hd, checkFixed_eq_error hentry,
      fun entry' h' => checkFixed_eq_ok_iff.mpr (hbefore entry' h')⟩
  rw [ofArgument_dict h, hfixed]
  rfl

/-- A dictionary that keeps the record is checked. -/
theorem ofArgument_of_kept (h : d.AreArguments) (hkept : d.KeepsRecord) :
    ofArgument (.dict d) = (check d).mapError .setting >>= fun _ => .ok (merge {} d) := by
  have hfixed : d.forM checkFixed = .ok () :=
    forM_eq_ok_iff.mpr fun entry hentry => checkFixed_eq_ok_iff.mpr (hkept.entries entry hentry)
  rw [ofArgument_dict h, hfixed]
  rfl

theorem ofArgument_eq_ok (h : d.AreArguments) (hkept : d.KeepsRecord)
    (hvalid : ∀ entry ∈ d, IsValidEntry entry) : ofArgument (.dict d) = .ok (merge {} d) := by
  rw [ofArgument_of_kept h hkept, check_eq_ok_iff.mpr hvalid]
  rfl

theorem exists_ofArgument_iff (h : d.AreArguments) (hkept : d.KeepsRecord) :
    (∃ s, ofArgument (.dict d) = .ok s) ↔ ∀ entry ∈ d, IsValidEntry entry := by
  constructor
  · rintro ⟨s, hs⟩
    rw [ofArgument_of_kept h hkept] at hs
    obtain ⟨_, hcheck, -⟩ := bind_eq_ok_iff.mp hs
    exact check_eq_ok_iff.mp (mapError_eq_ok_iff.mp hcheck)
  · intro hvalid
    exact ⟨_, ofArgument_eq_ok h hkept hvalid⟩

theorem exists_culprit_of_ofArgument (h : d.AreArguments)
    (hkept : d.KeepsRecord) (hinvalid : ¬ ∀ entry ∈ d, IsValidEntry entry) :
    ∃ entry fault, IsCulprit d entry ∧ fault.entryName = entry.1 ∧
      ofArgument (.dict d) = .error (.setting fault) := by
  cases hcheck : check d with
  | ok u => exact absurd (check_eq_ok_iff.mp hcheck) hinvalid
  | error fault =>
      obtain ⟨entry, hculprit, hname⟩ := exists_culprit_of_check hcheck
      refine ⟨entry, fault, hculprit, hname, ?_⟩
      rw [ofArgument_of_kept h hkept, hcheck]
      rfl

/-! ### What accepted entries leave -/

/-- The value of a setting. -/
def get (s : Settings) : SettingKey → Value
  | .dateFormat => s.dateFormat
  | .datetimeFormat => s.datetimeFormat
  | .locale => s.locale
  | .base => s.base

/-- An entry changes the setting of its name, and no other. -/
theorem get_set {s : Settings} {key : SettingKey} :
    (s.set entry).get key = if entry.1 = key.name then entry.2 else s.get key := by
  unfold set
  cases hkey : SettingKey.ofName? entry.1 with
  | none =>
      have hne : entry.1 ≠ key.name := by
        intro hname
        rw [SettingKey.ofName?_eq_some_iff.mpr hname.symm] at hkey
        cases hkey
      rw [if_neg hne]
  | some key' =>
      have hsame : entry.1 = key.name ↔ key' = key := by
        rw [← SettingKey.ofName?_eq_some_iff.mp hkey]
        exact ⟨SettingKey.name_injective, congrArg SettingKey.name⟩
      simp only [hsame]
      cases key' <;> cases key <;> rfl

theorem get_foldl_set (hdistinct : d.names.Nodup) (s : Settings) (key : SettingKey) :
    (d.foldl set s).get key = (d.lookup key.name).getD (s.get key) := by
  induction d generalizing s with
  | nil => rfl
  | cons entry d ih =>
      obtain ⟨hnew, hdistinct⟩ := List.nodup_cons.mp hdistinct
      rw [List.foldl_cons, ih hdistinct, get_set, List.lookup_cons]
      by_cases hname : entry.1 = key.name
      · -- No entry behind this one has its name, so it is both the first and the last of it.
        rw [← hname, SettingEntries.lookup_eq_none_of_not_mem hnew]
        simp
      · have hne : (key.name == entry.1) = false := by
          simpa using Ne.symm hname
        rw [if_neg hname, hne]

theorem get_ofEntries (h : d.AreArguments) (key : SettingKey) :
    (ofEntries d).get key = (d.lookup key.name).getD (({} : Settings).get key) := by
  rw [← get_foldl_set h.distinct]
  cases key with
  | dateFormat | datetimeFormat | locale | base => rfl

theorem ofArgument_toValue (s : Settings) : ofArgument s.toValue = .ok s := rfl

/-- Only the mark differs between settings that were merged and settings that were built. -/
theorem render_merge (reference : Value) (text : Option String) :
    (merge {} d).renderText reference text = (ofEntries d).renderText reference text ∧
      (merge {} d).renderTextNotices reference text =
        (ofEntries d).renderTextNotices reference text :=
  ⟨rfl, rfl⟩

theorem render_dict (h : d.AreArguments) (hkept : d.KeepsRecord)
    (hvalid : ∀ entry ∈ d, IsValidEntry entry) (reference : Value) (text : Option String) :
    WikiDates.render (.dict d) reference text =
      WikiDates.render (ofEntries d).toValue reference text := by
  unfold WikiDates.render
  rw [ofArgument_eq_ok h hkept hvalid, ofArgument_toValue]
  dsimp only
  rw [(render_merge reference text).1, (render_merge reference text).2]

/-- **A dictionary is accepted exactly if it is valid, if it keeps the record that it becomes.** The
first entry that is refused under a fixed name ends everything. A dictionary that keeps the record
is accepted exactly if all its entries are valid, whatever their order; if it is not, every
rendering fails with a fault of the settings that names the culprit, before anything else is looked
at; and if it is, every rendering is that with the settings that are built from its entries, where
the defaults stand for what it leaves out. -/
theorem dictionary_accepted_iff_valid (d : SettingEntries) (h : d.AreArguments) :
    (∀ before entry after, d = before ++ entry :: after → ¬ KeepsFixed entry →
        (∀ entry' ∈ before, KeepsFixed entry') →
        ofArgument (.dict d) = .error (.fixedName entry.1 entry.2.fullKind)) ∧
      (d.KeepsRecord →
        ((∃ s, ofArgument (.dict d) = .ok s) ↔ ∀ entry ∈ d, IsValidEntry entry) ∧
        (∀ d' : SettingEntries, d'.Perm d →
          ((∃ s, ofArgument (.dict d') = .ok s) ↔ ∃ s, ofArgument (.dict d) = .ok s)) ∧
        ((¬ ∀ entry ∈ d, IsValidEntry entry) → ∃ entry fault, IsCulprit d entry ∧
          (∃ rest, fault.message = "\"" ++ entry.1 ++ "\"" ++ rest) ∧
          Session.start (.dict d) = .error (.setting fault) ∧
          ∀ reference text,
            WikiDates.render (.dict d) reference text = ⟨.error (.setting fault), []⟩) ∧
        ((∀ entry ∈ d, IsValidEntry entry) → ∀ reference text,
          WikiDates.render (.dict d) reference text =
            WikiDates.render (ofEntries d).toValue reference text) ∧
        ∀ key : SettingKey,
          (ofEntries d).get key = (d.lookup key.name).getD (({} : Settings).get key)) := by
  refine ⟨fun before entry after hd => ofArgument_of_fixed h hd, fun hkept => ?_⟩
  refine ⟨exists_ofArgument_iff h hkept, ?_, ?_, render_dict h hkept, get_ofEntries h⟩
  · intro d' hperm
    rw [exists_ofArgument_iff (h.perm hperm) (hkept.perm hperm), exists_ofArgument_iff h hkept]
    simp only [hperm.mem_iff]
  · intro hinvalid
    obtain ⟨entry, fault, hculprit, hname, hfail⟩ := exists_culprit_of_ofArgument h hkept hinvalid
    refine ⟨entry, fault, hculprit, hname ▸ fault.message_eq, ?_, ?_⟩
    · rw [Session.start, hfail]
      rfl
    · intro reference text
      rw [WikiDates.render, hfail]

/-- A number cannot stand under the name of a class, and no fault of the settings says so. -/
theorem class_entry_is_not_checked :
    let d : SettingEntries := [("__class__", .int 5)]
    d.AreArguments ∧ ofArgument (.dict d) = .error (.fixedName "__class__" "int") := by
  intro d
  have h : d.AreArguments := ⟨by simp [d], by decide, by decide, by decide⟩
  have hentry : ¬ KeepsFixed ("__class__", .int 5) := by
    rw [← checkFixed_eq_ok_iff]
    simp [checkFixed]
  exact ⟨h, (dictionary_accepted_iff_valid d h).1 [] _ [] rfl hentry (by simp)⟩

end Settings
end WikiDates
