import WikiDates.CommandLine.Command
import WikiDates.Proofs.CommandLine.Arguments

/-!
# What a command line asks for

    texts ──SpellAll──▶ arguments ──Ask──▶ requests
      └──────────Command.read──────────▶ command ◀─┘ Follows

The requests of a command line are its options, each with the value that is given to it, and its plain
texts, in order. `Argument.Ask` has one rule for each way of asking. It carries no command along, and
so it cannot take a value for the one of another option.

`Command.Follows` says which command the requests lead to: each option has the value that was requested
last, and there is no more than one text. The reading of arguments keeps it up from one request to the
next (`Command.leads_set`), so it holds of every command that is read, `Command.follows_of_read`.
-/

namespace WikiDates.CommandLine

open Results

/-! ### Requests -/

/-- One thing that a command line asks for. -/
inductive Request where
  /-- An option, with the value that is given to it. -/
  | option (switch : Switch) (value : Option String)
  /-- A plain text. -/
  | text (text : String)
  deriving DecidableEq, Repr

namespace Request

/-- The value that is given to an option, if it is requested. -/
def valueOf? (switch : Switch) : Request → Option (Option String)
  | option switch' value => if switch' = switch then some value else none
  | text _ => none

/-- The plain text that is requested. -/
def text? : Request → Option String
  | option .. => none
  | text t => some t

/-- The value that was given last to an option, if it is requested at all. -/
def last (switch : Switch) (requests : List Request) : Option (Option String) :=
  (requests.filterMap (valueOf? switch)).getLast?

variable {switch : Switch} {request : Request} {requests : List Request}

@[simp] theorem last_concat :
    last switch (requests ++ [request]) = (request.valueOf? switch).or (last switch requests) := by
  unfold last
  rw [List.filterMap_append]
  cases hvalue : request.valueOf? switch with
  | none => simp [hvalue]
  | some value => simp [hvalue]

end Request

namespace Argument

/-- What is attached to a short spelling are the letters of further options. By the earlier rules, an
equals sign may stand in front of them. -/
inductive IsRow (edition : Edition) : List Char → List Switch → Prop where
  | letters {cs : List Char} {switches : List Switch} : Switch.AreLetters cs switches →
      IsRow edition cs switches
  | equals {cs : List Char} {switches : List Switch} : edition = .earlier → cs ≠ [] →
      Switch.AreLetters cs switches → IsRow edition ('=' :: cs) switches

/-- What arguments ask for. -/
inductive Ask (edition : Edition) : List Argument → List Request → Prop where
  | nil : Ask edition [] []
  /-- The separator asks for nothing. -/
  | separator {rest : List Argument} {requests : List Request} : Ask edition rest requests →
      Ask edition (.separator :: rest) requests
  | text {text : String} {rest : List Argument} {requests : List Request} :
      Ask edition rest requests → Ask edition (.plain text :: rest) (.text text :: requests)
  /-- A plain text behind an option is its value, if it can have one. -/
  | detached {switch : Switch} {value : String} {rest : List Argument} {requests : List Request} :
      switch.arity ≠ .none → Ask edition rest requests →
      Ask edition (.long switch none :: .plain value :: rest)
        (.option switch (some value) :: requests)
  /-- An option stands alone if it cannot have a value, or need not have one and none follows. -/
  | alone {switch : Switch} {rest : List Argument} {requests : List Request} :
      switch.arity ≠ .one → (switch.arity = .none ∨ ∀ text, rest.head? ≠ some (.plain text)) →
      Ask edition rest requests →
      Ask edition (.long switch none :: rest) (.option switch none :: requests)
  | attached {switch : Switch} {value : String} {rest : List Argument} {requests : List Request} :
      edition = .later ∨ value ≠ "--" → Ask edition rest requests →
      Ask edition (.long switch (some value) :: rest) (.option switch (some value) :: requests)
  /-- By the earlier rules, a value that looks like the separator is left out. -/
  | leftOut {switch : Switch} {rest : List Argument} {requests : List Request} :
      edition = .earlier → switch.arity ≠ .none → Ask edition rest requests →
      Ask edition (.long switch (some "--") :: rest) (.option switch none :: requests)
  | row {switch : Switch} {attached : List Char} {switches : List Switch} {rest : List Argument}
      {requests : List Request} : IsRow edition attached switches → Ask edition rest requests →
      Ask edition (.short switch attached :: rest)
        ((switch :: switches).map (.option · none) ++ requests)

variable {edition : Edition}

theorem IsRow.unique {cs : List Char} {switches switches' : List Switch}
    (h : IsRow edition cs switches) (h' : IsRow edition cs switches') : switches = switches' := by
  have hequals : ∀ {cs : List Char} {switches : List Switch},
      ¬ Switch.AreLetters ('=' :: cs) switches := by
    intro cs switches h
    cases h with
    | cons hletter _ => exact hletter.ne_equals rfl
  cases h with
  | letters hcs =>
      cases h' with
      | letters hcs' => exact hcs.unique hcs'
      | equals => exact absurd hcs hequals
  | equals _ _ hcs =>
      cases h' with
      | letters hcs' => exact absurd hcs' hequals
      | equals _ _ hcs' => exact hcs.unique hcs'

/-- Arguments ask for one thing only. -/
theorem Ask.unique {arguments : List Argument} {requests requests' : List Request}
    (h : Ask edition arguments requests) (h' : Ask edition arguments requests') :
    requests = requests' := by
  induction h generalizing requests' with
  | nil =>
      cases h'
      rfl
  | separator _ ih =>
      cases h' with
      | separator hrest => exact ih hrest
  | text _ ih =>
      cases h' with
      | text hrest => rw [ih hrest]
  | detached harity _ ih =>
      cases h' with
      | detached _ hrest => rw [ih hrest]
      | alone _ hnone => exact absurd (hnone.resolve_right fun hne => hne _ rfl) harity
  | alone _ hnone _ ih =>
      cases h' with
      | detached harity => exact absurd (hnone.resolve_right fun hne => hne _ rfl) harity
      | alone _ _ hrest => rw [ih hrest]
  | attached hvalue _ ih =>
      cases h' with
      | attached _ hrest => rw [ih hrest]
      | leftOut hedition =>
          rw [hedition] at hvalue
          exact absurd rfl (hvalue.resolve_left (by decide))
  | leftOut hedition _ _ ih =>
      cases h' with
      | attached hvalue =>
          rw [hedition] at hvalue
          exact absurd rfl (hvalue.resolve_left (by decide))
      | leftOut _ _ hrest => rw [ih hrest]
  | row hattached _ ih =>
      cases h' with
      | row hattached' hrest => rw [hattached.unique hattached', ih hrest]

end Argument

/-- What the texts of a command line ask for. -/
def Asks (edition : Edition) (texts : List String) (requests : List Request) : Prop :=
  ∃ arguments, Argument.SpellAll texts arguments ∧ Argument.Ask edition arguments requests

/-- The texts of a command line ask for one thing only. -/
theorem Asks.unique {edition : Edition} {texts : List String} {requests requests' : List Request}
    (h : Asks edition texts requests) (h' : Asks edition texts requests') :
    requests = requests' := by
  obtain ⟨arguments, hspell, hask⟩ := h
  obtain ⟨arguments', hspell', hask'⟩ := h'
  rw [← Argument.classifyAll_eq_ok_iff] at hspell hspell'
  obtain rfl : arguments = arguments' := Except.ok.inj (hspell.symm.trans hspell')
  exact hask.unique hask'

/-! ### Commands that follow requests -/

namespace Command

/-- What a command has for an option, where `last` is the value that was given last. The anchor is the
present if it is not requested, and a page without a value is the standard input. -/
def Holds (c : Command) (last : Option (Option String)) : Switch → Prop
  | .help => last = none
  | .anchor => c.anchor.map Anchor.name = last.getD (some "now")
  | .page => c.page = last.map (·.getD "-")
  | .base => c.base.map .ok = last.join.map Iso8601.parse
  | .locale => c.locale = last.join
  | .strict => c.strict = last.isSome
  | .verbose => c.verbose = last.isSome

/-- The command that requests lead to. -/
structure Follows (c : Command) (requests : List Request) : Prop where
  /-- For each option, the value that was given last is the one in use. -/
  option : ∀ switch, c.Holds (Request.last switch requests) switch
  /-- The option text is the only text. -/
  text : c.text.toList = requests.filterMap Request.text?

variable {c c₁ c' : Command} {switch other : Switch} {value : Option String}
  {last : Option (Option String)} {requests requests' : List Request} {edition : Edition}

/-- Give a value, or none, to an option. -/
def set (c : Command) (switch : Switch) : Option String → Except Refusal Command
  | some value => c.setValue switch value
  | none => c.setEmpty switch

theorem follows_nil : ({} : Command).Follows [] where
  option switch := by cases switch <;> rfl
  text := rfl

theorem readAnchor_eq_ok_iff {text : String} {a : Anchor} :
    readAnchor text = .ok a ↔ a.name = text := by
  unfold readAnchor
  constructor
  · intro h
    split at h
    · next a' ha' =>
        cases h
        exact Anchor.name_of_ofName? ha'
    · cases h
  · rintro rfl
    rw [Anchor.ofName?_name]

theorem holds_set (h : c.set switch value = .ok c') : c'.Holds (some value) switch := by
  cases value with
  | some value =>
      cases switch with
      | help | strict | verbose => cases h
      | anchor =>
          obtain ⟨a, ha, rfl⟩ := map_eq_ok_iff.mp h
          exact congrArg some (readAnchor_eq_ok_iff.mp ha)
      | base =>
          obtain ⟨x, hx, rfl⟩ := map_eq_ok_iff.mp h
          exact congrArg some (mapError_eq_ok_iff.mp hx).symm
      | page | locale =>
          cases h
          rfl
  | none =>
      cases switch with
      | help => cases h
      | anchor | page | base | locale | strict | verbose =>
          cases h
          rfl

/-- What is given to an option changes its own field. -/
theorem eq_of_set (h : c.set switch value = .ok c') :
    (switch = .anchor ∧ ∃ a, c' = { c with anchor := a }) ∨
      (switch = .page ∧ ∃ path, c' = { c with page := path }) ∨
      (switch = .base ∧ ∃ x, c' = { c with base := x }) ∨
      (switch = .locale ∧ ∃ l, c' = { c with locale := l }) ∨
      (switch = .strict ∧ c' = { c with strict := true }) ∨
      (switch = .verbose ∧ c' = { c with verbose := true }) := by
  cases value with
  | some value =>
      cases switch with
      | help | strict | verbose => cases h
      | anchor | base =>
          obtain ⟨v, -, rfl⟩ := map_eq_ok_iff.mp h
          simp
      | page | locale =>
          cases h
          simp
  | none =>
      cases switch with
      | help => cases h
      | anchor | page | base | locale | strict | verbose =>
          cases h
          simp

theorem holds_set_of_ne (h : c.set switch value = .ok c') (hne : switch ≠ other)
    (hc : c.Holds last other) : c'.Holds last other := by
  -- Each option has a field of its own, so no other one looks at what has changed.
  rcases eq_of_set h with
    ⟨rfl, _, rfl⟩ | ⟨rfl, _, rfl⟩ | ⟨rfl, _, rfl⟩ | ⟨rfl, _, rfl⟩ | ⟨rfl, rfl⟩ | ⟨rfl, rfl⟩
  all_goals cases other
  all_goals first
    | exact hc
    | exact absurd rfl hne

theorem text_set (h : c.set switch value = .ok c') : c'.text = c.text := by
  rcases eq_of_set h with
    ⟨-, _, rfl⟩ | ⟨-, _, rfl⟩ | ⟨-, _, rfl⟩ | ⟨-, _, rfl⟩ | ⟨-, rfl⟩ | ⟨-, rfl⟩
  all_goals rfl

/-! ### One request after another -/

/-- Requests lead from one command to another: if what was requested before is followed by the one, all
of it is followed by the other. -/
def Leads (c : Command) (requests : List Request) (c' : Command) : Prop :=
  ∀ before, c.Follows before → c'.Follows (before ++ requests)

theorem Leads.refl (c : Command) : c.Leads [] c := by
  intro before h
  rwa [List.append_nil]

theorem Leads.append (h : c.Leads requests c₁) (h' : c₁.Leads requests' c') :
    c.Leads (requests ++ requests') c' := by
  intro before hbefore
  rw [← List.append_assoc]
  exact h' _ (h before hbefore)

/-- An option is requested by what is given to it. -/
theorem leads_set (h : c.set switch value = .ok c') : c.Leads [.option switch value] c' := by
  intro before hbefore
  constructor
  · intro other
    rw [Request.last_concat, Request.valueOf?]
    by_cases hother : switch = other
    · rw [if_pos hother, Option.some_or, ← hother]
      exact holds_set h
    · rw [if_neg hother, Option.none_or]
      exact holds_set_of_ne h hother (hbefore.option other)
  · rw [text_set h, hbefore.text, List.filterMap_append]
    exact (List.append_nil _).symm

theorem leads_setValue {v : String} (h : c.setValue switch v = .ok c') :
    c.Leads [.option switch (some v)] c' := leads_set h

theorem leads_setEmpty (h : c.setEmpty switch = .ok c') : c.Leads [.option switch none] c' :=
  leads_set h

theorem leads_setText (h : c.text.isNone = true) (t : String) :
    c.Leads [.text t] { c with text := some t } := by
  intro before hbefore
  constructor
  · intro other
    rw [Request.last_concat, Request.valueOf?, Option.none_or]
    have hother := hbefore.option other
    cases other <;> exact hother
  · rw [List.filterMap_append, ← hbefore.text, Option.isNone_iff_eq_none.mp h]
    rfl

theorem leads_foldlM {switches : List Switch} (h : switches.foldlM setEmpty c = .ok c') :
    c.Leads (switches.map (.option · none)) c' := by
  induction switches generalizing c with
  | nil =>
      cases h
      exact .refl _
  | cons switch switches ih =>
      obtain ⟨c₁, hset, h⟩ := foldlM_cons_eq_ok_iff.mp h
      exact (leads_setEmpty hset).append (ih h)

/-! ### Rows of letters, attached values -/

theorem letters_of_readRow {cs : List Char} {switches : List Switch}
    (h : readRow edition switch cs = .ok (switches, [])) :
    ∃ behind, switches = switch :: behind ∧ Switch.AreLetters cs behind := by
  induction cs generalizing switch switches with
  | nil =>
      cases h
      exact ⟨[], rfl, .nil⟩
  | cons c cs ih =>
      unfold readRow at h
      split at h
      · next next hnext =>
          obtain ⟨⟨switches', unused⟩, hrest, hsame⟩ := map_eq_ok_iff.mp h
          cases hsame
          obtain ⟨behind, rfl, hbehind⟩ := ih hrest
          exact ⟨next :: behind, rfl, .cons (Switch.ofLetter?_eq_some_iff.mp hnext) hbehind⟩
      · split at h
        · cases h
        · cases h

theorem isRow_of_readShort {attached : List Char} {switches : List Switch}
    (h : readShort edition switch attached = .ok (switches, [])) :
    ∃ behind, switches = switch :: behind ∧ Argument.IsRow edition attached behind := by
  unfold readShort at h
  split at h
  · cases h
  · next cs hne =>
      obtain ⟨behind, hswitches, hbehind⟩ := letters_of_readRow h
      exact ⟨behind, hswitches, .equals rfl (fun hcs => hne hcs) hbehind⟩
  · obtain ⟨behind, hswitches, hbehind⟩ := letters_of_readRow h
    exact ⟨behind, hswitches, .letters hbehind⟩

theorem leftover_eq_nil_iff {cs : List Char} : leftover cs = [] ↔ cs = [] := by
  cases cs with
  | nil => exact iff_of_true rfl rfl
  | cons c cs => exact iff_of_false (List.cons_ne_nil _ _) (List.cons_ne_nil _ _)

/-- An attached value is given to its option, unless it is left out. -/
theorem of_setAttached {v : String} (h : c.setAttached edition switch v = .ok c') :
    (edition = .later ∨ v ≠ "--") ∧ c.setValue switch v = .ok c' ∨
      edition = .earlier ∧ v = "--" ∧ switch.arity ≠ .none ∧ c.setEmpty switch = .ok c' := by
  unfold setAttached at h
  split at h
  · next hout => exact Or.inr ⟨hout.1, hout.2.2, hout.2.1, h⟩
  · next hout =>
      refine Or.inl ⟨?_, h⟩
      -- An option that takes no value cannot be given one.
      have harity : switch.arity ≠ .none := by
        rintro harity
        cases switch with
        | help | strict | verbose => cases h
        | anchor | page | base | locale => cases harity
      cases edition with
      | earlier => exact Or.inr fun hv => hout ⟨rfl, harity, hv⟩
      | later => exact Or.inl rfl

/-! ### Reading -/

/-- **Arguments are read as what they ask for**, if none is put aside. -/
theorem exists_ask {arguments : List Argument}
    (h : readArguments edition c arguments = .ok (c', [])) :
    ∃ requests, Argument.Ask edition arguments requests ∧ c.Leads requests c' := by
  fun_induction readArguments edition c arguments generalizing c' with
  | case1 c => -- no argument
      cases h
      exact ⟨[], .nil, .refl c⟩
  | case2 c rest _ ih => -- the separator
      obtain ⟨requests, hask, hleads⟩ := ih h
      exact ⟨requests, .separator hask, hleads⟩
  | case3 | case5 | case7 | case8 => -- an argument that is put aside
      obtain ⟨_, -, hsame⟩ := map_eq_ok_iff.mp h
      cases hsame
  | case4 c t rest htext ih => -- the option text, with the separator behind it
      obtain ⟨requests, hask, hleads⟩ := ih h
      exact ⟨_, .text (.separator hask), (leads_setText htext t).append hleads⟩
  | case6 c t rest _ htext ih => -- the option text
      obtain ⟨requests, hask, hleads⟩ := ih h
      exact ⟨_, .text hask, (leads_setText htext t).append hleads⟩
  | case9 c switch v rest ih => -- a value that is attached
      obtain ⟨c₁, hset, h⟩ := bind_eq_ok_iff.mp h
      obtain ⟨requests, hask, hleads⟩ := ih c₁ h
      rcases of_setAttached hset with ⟨hv, hset⟩ | ⟨hedition, rfl, harity, hset⟩
      · exact ⟨_, .attached hv hask, (leads_setValue hset).append hleads⟩
      · exact ⟨_, .leftOut hedition harity hask, (leads_setEmpty hset).append hleads⟩
  | case10 c switch attached rest ih => -- a row of letters, with nothing left of it
      obtain ⟨⟨switches, behind⟩, hshort, h⟩ := bind_eq_ok_iff.mp h
      obtain ⟨c₁, hrow, h⟩ := bind_eq_ok_iff.mp h
      obtain ⟨⟨c₂, unused⟩, hrest, hsame⟩ := map_eq_ok_iff.mp h
      obtain ⟨rfl, hunused⟩ := Prod.mk.inj hsame
      obtain ⟨hbehind, rfl⟩ := List.append_eq_nil_iff.mp hunused
      rw [leftover_eq_nil_iff.mp hbehind] at hshort
      obtain ⟨switches, rfl, hattached⟩ := isRow_of_readShort hshort
      obtain ⟨requests, hask, hleads⟩ := ih c₁ hrest
      exact ⟨_, .row hattached hask, (leads_foldlM hrow).append hleads⟩
  | case11 c switch t rest harity ih => -- a text behind an option that takes no value
      obtain ⟨c₁, hset, h⟩ := bind_eq_ok_iff.mp h
      obtain ⟨requests, hask, hleads⟩ := ih c₁ h
      have hone : switch.arity ≠ .one := by
        rw [harity]
        decide
      exact ⟨_, .alone hone (.inl harity) hask, (leads_setEmpty hset).append hleads⟩
  | case12 c switch t rest harity ih => -- a value behind its option
      obtain ⟨c₁, hset, h⟩ := bind_eq_ok_iff.mp h
      obtain ⟨requests, hask, hleads⟩ := ih c₁ h
      exact ⟨_, .detached harity hask, (leads_setValue hset).append hleads⟩
  | case13 => -- a missing value
      cases h
  | case14 c switch rest hplain harity ih => -- an option without a value
      obtain ⟨c₁, hset, h⟩ := bind_eq_ok_iff.mp h
      obtain ⟨requests, hask, hleads⟩ := ih c₁ h
      refine ⟨_, .alone harity (.inr ?_) hask, (leads_setEmpty hset).append hleads⟩
      intro t ht
      obtain ⟨rest', hrest⟩ := List.head?_eq_some_iff.mp ht
      exact hplain t rest' hrest

/-- **A command that is read follows what its command line asks for.** -/
theorem follows_of_read {texts : List String} (h : read edition texts = .ok c) :
    ∃ requests, Asks edition texts requests ∧ c.Follows requests := by
  obtain ⟨arguments, hclassify, h⟩ := bind_eq_ok_iff.mp h
  obtain ⟨⟨c₁, unused⟩, hread, h⟩ := bind_eq_ok_iff.mp h
  have hspell := Argument.classifyAll_eq_ok_iff.mp (mapError_eq_ok_iff.mp hclassify)
  dsimp only at h
  split at h
  · cases h
  · next hunused =>
      obtain rfl : unused = [] := by simpa using hunused
      split at h
      · cases h
      · cases h
        obtain ⟨requests, hask, hleads⟩ := exists_ask hread
        exact ⟨requests, ⟨arguments, hspell, hask⟩, hleads [] follows_nil⟩

end Command
end WikiDates.CommandLine
