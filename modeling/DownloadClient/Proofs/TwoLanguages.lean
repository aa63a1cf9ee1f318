import DownloadClient.Proofs.Usage

/-! The commands that the program and its shell have in common. The program has flags of its own,
and the shell has none; words of which none goes to such a flag are read alike by both. -/

namespace DownloadClient.Command

open DownloadClient.Json DownloadClient.Text

def Progress.flagOf? (s : Progress) (g : Grammar) (w : String) : Option String :=
  if s.placesOnly ∨ w = "--" then none
  else
    match longFlag? w, shortFlag? w with
    | some (name, _), _ => (g.flag? name).map (·.name)
    | none, some _ => none
    | none, none => if s.awaits then s.pending.map (·.name) else none

def Grammar.flagsIn (g : Grammar) : Progress → List String → List String
  | _, [] => []
  | s, w :: ws =>
    (s.flagOf? g w).toList ++
      match takeWord g s w .unknownArgument with
      | .ok t => g.flagsIn t ws
      | .error _ => []

def Grammar.start (g : Grammar) : Progress := ⟨[], none, g.places, false⟩

namespace Commands

variable {κ : Type}

def flagsBefore (c : Commands κ) (g : Grammar) : Progress → List String → List String
  | _, [] => []
  | s, w :: ws =>
    if s.placesOnly || s.awaits || !c.isKnown w then
      (s.flagOf? g w).toList ++
        match takeWord g s w (c.surplus s w) with
        | .ok t => c.flagsBefore g t ws
        | .error _ => []
    else []

def flagsTaken (c : Commands κ) (shared : List Flag) (ws : List String) : List String :=
  let whole : Grammar := ⟨shared, [], []⟩
  c.flagsBefore whole whole.start ws ++
    match c.choose whole whole.start ws with
    | .ok (_, some chosen) =>
      let own := c.ownGrammar shared chosen.command
      own.flagsIn own.start chosen.words
    | _ => []

/-- No word is a shared flag, or the value of one. -/
def SharesNone (c : Commands κ) (shared : List Flag) (ws : List String) : Prop :=
  ∀ f ∈ shared, f.name ∉ c.flagsTaken shared ws

end Commands

def Grammar.Apart (g : Grammar) (shared : List Flag) : Prop :=
  ∀ name takes, g.Has name takes → ∀ f ∈ shared, f.name ≠ name

theorem bind_iff {ε α β : Type} {x x' : Except ε α} {f f' : α → Except ε β} {b : β}
    {whole head : Prop} {tail : α → Prop} (hx : ∀ a, x' = .ok a ∧ head ↔ x = .ok a)
    (hf : ∀ a, x = .ok a → (f' a = .ok b ∧ tail a ↔ f a = .ok b))
    (parts : ∀ a, x' = .ok a → (whole ↔ head ∧ tail a)) :
    (x' >>= f') = .ok b ∧ whole ↔ (x >>= f) = .ok b := by
  constructor
  · rintro ⟨h, all⟩
    obtain ⟨a, ha, hb⟩ := bind_eq_ok.1 h
    obtain ⟨first, rest⟩ := (parts a ha).1 all
    have same := (hx a).1 ⟨ha, first⟩
    exact bind_eq_ok.2 ⟨a, same, (hf a same).1 ⟨hb, rest⟩⟩
  · intro h
    obtain ⟨a, same, hb⟩ := bind_eq_ok.1 h
    obtain ⟨ha, first⟩ := (hx a).2 same
    obtain ⟨hb, rest⟩ := (hf a same).2 hb
    exact ⟨bind_eq_ok.2 ⟨a, ha, hb⟩, (parts a ha).2 ⟨first, rest⟩⟩

theorem forall_name_not_mem_append {shared : List Flag} {name : Option String}
    {names : List String} : (∀ f ∈ shared, f.name ∉ name.toList ++ names) ↔
      (∀ f ∈ shared, f.name ∉ name) ∧ ∀ f ∈ shared, f.name ∉ names := by
  simp only [List.mem_append, Option.mem_toList, not_or]
  exact forall₂_and

section Word

variable {g g' : Grammar} {shared : List Flag} (hg : g'.flags = g.flags ++ shared)
  {s t : Progress} {w name : String} {attached : Option String} {full : UsageError}

theorem takeLong_of_unknown (h : g.flag? name = none) :
    takeLong g s name attached ≠ .ok t := by
  intro ht
  unfold takeLong at ht
  split at ht
  · split at ht
    · cases ht
    · obtain ⟨_, -, ht⟩ := bind_eq_ok.1 ht
      cases ht
  · rw [h] at ht
    cases ht

theorem takeShort_ne_ok (c : Char) : takeShort s c ≠ .ok t := by
  intro ht
  unfold takeShort at ht
  split at ht
  · obtain ⟨_, -, ht⟩ := bind_eq_ok.1 ht
    cases ht
  · cases ht

theorem takeLong_congr (h : g'.flag? name = g.flag? name) :
    takeLong g' s name attached = takeLong g s name attached := by
  unfold takeLong
  rw [h]

theorem flagsIn_cons {ws : List String} (h : takeWord g s w .unknownArgument = .ok t) :
    g.flagsIn s (w :: ws) = (s.flagOf? g w).toList ++ g.flagsIn t ws := by
  rw [Grammar.flagsIn, h]

include hg

theorem takeLong_iff (apart : g.Apart shared) :
    takeLong g' s name attached = .ok t ∧
        (∀ f ∈ shared, f.name ∉ (g'.flag? name).map Flag.name) ↔
      takeLong g s name attached = .ok t := by
  have flag : g'.flag? name = (g.flag? name).or (shared.find? (·.isCalled name)) := by
    simp [Grammar.flag?, hg, List.find?_append]
  cases hf : g.flag? name with
  | some f =>
    have same : g'.flag? name = some f := by rw [flag, hf, Option.some_or]
    have own := apart f.name f.takes (.flag (List.mem_of_find?_eq_some hf))
    rw [takeLong_congr (same.trans hf.symm), same]
    simpa using fun _ f' hf' => Ne.symm (own f' hf')
  | none =>
    refine iff_of_false ?_ (takeLong_of_unknown hf)
    rw [hf, Option.none_or] at flag
    rintro ⟨ht, unshared⟩
    cases hs : shared.find? (·.isCalled name) with
    | none => exact takeLong_of_unknown (flag.trans hs) ht
    | some f => exact unshared f (List.mem_of_find?_eq_some hs) (by simp [flag, hs])

/-- With more flags a word is taken as without them, or it goes to one of them. -/
theorem takeWord_iff (apart : g.Apart shared) (h : s.Fit g) :
    takeWord g' s w full = .ok t ∧ (∀ f ∈ shared, f.name ∉ s.flagOf? g' w) ↔
      takeWord g s w full = .ok t := by
  unfold takeWord Progress.flagOf?
  by_cases hp : s.placesOnly = true
  · simp [hp]
  · by_cases hd : w = "--"
    · simp [hp, hd]
    · simp only [hp, hd, if_false]
      cases hl : longFlag? w with
      | some long => exact takeLong_iff hg apart
      | none =>
        cases hs : shortFlag? w with
        | some c => simp [takeShort_ne_ok]
        | none =>
          cases ha : s.awaits with
          | false => simp
          | true =>
            have own : ∀ f ∈ shared, f.name ∉ s.pending.map Pending.name := by
              intro f hf mem
              obtain ⟨p, hp, e⟩ := Option.map_eq_some_iff.1 mem
              exact apart _ _ (h.pending p hp) f hf e.symm
            simpa using fun _ => own

theorem takeAll_iff (apart : g.Apart shared) (h : s.Fit g) {ws : List String} :
    takeAll g' s ws = .ok t ∧ (∀ f ∈ shared, f.name ∉ g'.flagsIn s ws) ↔
      takeAll g s ws = .ok t := by
  induction ws generalizing s with
  | nil => simp [takeAll, Grammar.flagsIn]
  | cons w ws ih =>
    refine bind_iff (fun u => takeWord_iff hg apart h) (fun u hu => ih (h.takeWord hu)) ?_
    intro u hu
    rw [flagsIn_cons hu, forall_name_not_mem_append]

end Word

theorem of_takeWord_bare {s : Progress} {w : String} {full : UsageError}
    (h : takeWord {} (Grammar.start {}) w full = .ok s) :
    s.placesOnly = true ∧ s.places = [] := by
  unfold takeWord at h
  split at h
  · cases h
  · split at h
    · cases h
      exact ⟨rfl, rfl⟩
    · split at h
      · exact absurd h (takeLong_of_unknown rfl)
      · exact absurd h (takeShort_ne_ok _)
      · cases h

def Unset (env : Environment) (flags : List Flag) : Prop :=
  ∀ f ∈ flags, f.standIn.bind env = none

theorem unset_noEnvironment (flags : List Flag) : Unset noEnvironment flags := by
  intro f _
  cases f.standIn <;> rfl

theorem checkEnvironment_of_unset {env : Environment} {flags : List Flag} (h : Unset env flags)
    (m : Matches) : checkEnvironment env m flags = .ok () := by
  induction flags with
  | nil => rfl
  | cons f flags ih =>
    obtain ⟨first, rest⟩ := List.forall_mem_cons.1 h
    rw [checkEnvironment, first]
    exact ih rest

theorem finish_congr {g g' : Grammar} {env env' : Environment} (s : Progress)
    (required : g'.required = g.required) (h' : Unset env' g'.flags) (h : Unset env g.flags) :
    s.finish g' env' = s.finish g env := by
  unfold Progress.finish
  simp only [checkEnvironment_of_unset h', checkEnvironment_of_unset h, required]

namespace Commands

variable {κ : Type} {c : Commands κ}

theorem flagsBefore_cons {g : Grammar} {s t : Progress} {w : String} {ws : List String}
    (before : s.placesOnly || s.awaits || !c.isKnown w)
    (h : takeWord g s w (c.surplus s w) = .ok t) :
    c.flagsBefore g s (w :: ws) = (s.flagOf? g w).toList ++ c.flagsBefore g t ws := by
  rw [flagsBefore, if_pos before, h]

theorem choose_iff {g g' : Grammar} {shared : List Flag} (hg : g'.flags = g.flags ++ shared)
    (apart : g.Apart shared) {s : Progress} (h : s.Fit g) {ws : List String}
    {r : Progress × Option (Chosen κ)} :
    c.choose g' s ws = .ok r ∧ (∀ f ∈ shared, f.name ∉ c.flagsBefore g' s ws) ↔
      c.choose g s ws = .ok r := by
  induction ws generalizing s with
  | nil => simp [choose, flagsBefore]
  | cons w ws ih =>
    by_cases before : s.placesOnly || s.awaits || !c.isKnown w
    · simp only [choose, if_pos before]
      refine bind_iff (fun u => takeWord_iff hg apart h) (fun u hu => ih (h.takeWord hu)) ?_
      intro u hu
      rw [flagsBefore_cons before hu, forall_name_not_mem_append]
    · simp [choose, flagsBefore, before]

theorem isKnown_of_find? {w : String} {k : κ} (h : c.find? w = some k) : c.isKnown w = true := by
  simp [isKnown, h]

theorem choose_placesOnly {g : Grammar} {s t : Progress} (only : s.placesOnly = true)
    (places : s.places = []) {ws : List String} {chosen : Chosen κ} :
    c.choose g s ws ≠ .ok (t, some chosen) := by
  cases ws with
  | nil => simp [choose]
  | cons w ws =>
    intro h
    rw [choose, if_pos (by simp [only])] at h
    obtain ⟨u, hu, -⟩ := bind_eq_ok.1 h
    simp [takeWord, takePlaced, only, places] at hu

theorem choose_bare {ws : List String} {s : Progress} {chosen : Chosen κ} :
    c.choose {} (Grammar.start {}) ws = .ok (s, some chosen) ↔
      s = Grammar.start {} ∧ chosen.before = s ∧
        ∃ w, c.find? w = some chosen.command ∧ ws = w :: chosen.words := by
  cases ws with
  | nil => simp [choose]
  | cons w ws =>
    rw [choose]
    by_cases known : c.isKnown w = true
    · rw [if_neg (by simp [known, Grammar.start, Progress.awaits])]
      cases hk : c.find? w with
      | none =>
        refine iff_of_false (by simp) ?_
        rintro ⟨-, -, v, hv, e⟩
        cases e
        simp [hk] at hv
      | some k =>
        obtain ⟨before, command, words⟩ := chosen
        constructor
        · intro h
          cases h
          exact ⟨rfl, rfl, w, hk, rfl⟩
        · rintro ⟨rfl, rfl, v, hv, e⟩
          cases e
          cases hk.symm.trans hv
          rfl
    · rw [if_pos (by simp [known])]
      refine iff_of_false (fun h => ?_) ?_
      · obtain ⟨u, hu, h⟩ := bind_eq_ok.1 h
        obtain ⟨only, places⟩ := of_takeWord_bare hu
        exact choose_placesOnly only places h
      · rintro ⟨-, -, v, hv, e⟩
        cases e
        exact known (isKnown_of_find? hv)

theorem parse_eq_ok {shared : List Flag} {env : Environment} {ws : List String} {p : Parsed κ} :
    c.parse shared env ws = .ok p ↔ ∃ s chosen t,
      c.choose ⟨shared, [], []⟩ (Grammar.start ⟨shared, [], []⟩) ws = .ok (s, some chosen) ∧
        takeAll (c.ownGrammar shared chosen.command)
            (c.ownGrammar shared chosen.command).start chosen.words = .ok t ∧
          t.finish (c.ownGrammar shared chosen.command) env = .ok p.inner ∧
            chosen.before.finish ⟨shared, [], []⟩ env = .ok p.outer ∧
              chosen.command = p.command := by
  constructor
  · intro h
    obtain ⟨⟨s, chosen⟩, hc, h⟩ := bind_eq_ok.1 h
    cases chosen with
    | none =>
      obtain ⟨m, -, h⟩ := bind_eq_ok.1 h
      cases h
    | some chosen =>
      obtain ⟨t, ht, h⟩ := bind_eq_ok.1 h
      obtain ⟨inner, hi, h⟩ := bind_eq_ok.1 h
      obtain ⟨outer, ho, h⟩ := bind_eq_ok.1 h
      cases h
      exact ⟨s, chosen, t, hc, ht, hi, ho, rfl⟩
  · rintro ⟨s, chosen, t, hc, ht, hi, ho, e⟩
    refine bind_eq_ok.2 ⟨_, hc, bind_eq_ok.2 ⟨t, ht, ?_⟩⟩
    refine bind_eq_ok.2 ⟨_, hi, bind_eq_ok.2 ⟨_, ho, ?_⟩⟩
    rw [e]
    rfl

theorem apart_bare (shared : List Flag) : Grammar.Apart {} shared := by
  intro name takes has
  cases has with
  | flag h => cases h
  | place h => cases h

theorem ownGrammar_bare (k : κ) : c.ownGrammar [] k = c.grammar k := by
  simp [ownGrammar]

section Parse

variable {shared : List Flag} {env : Environment} {ws : List String} {p : Parsed κ}

theorem flagsTaken_of_choose {s : Progress} {chosen : Chosen κ}
    (h : c.choose ⟨shared, [], []⟩ (Grammar.start ⟨shared, [], []⟩) ws = .ok (s, some chosen)) :
    c.flagsTaken shared ws =
      c.flagsBefore ⟨shared, [], []⟩ (Grammar.start ⟨shared, [], []⟩) ws ++
        (c.ownGrammar shared chosen.command).flagsIn (c.ownGrammar shared chosen.command).start
          chosen.words := by
  rw [flagsTaken, h]

theorem parse_iff (apart : ∀ k, (c.grammar k).Apart shared)
    (own : ∀ k, Unset env (c.grammar k).flags) (unset : Unset env shared) :
    c.parse shared env ws = .ok p ∧ c.SharesNone shared ws ↔
      c.parse [] noEnvironment ws = .ok p := by
  have choose := @choose_iff κ c {} ⟨shared, [], []⟩ shared rfl (apart_bare shared)
    (Grammar.start {}) (.start {}) ws
  have take (k : κ) := @takeAll_iff (c.grammar k) (c.ownGrammar shared k) shared rfl
    (c.grammar k).start
  have finish (k : κ) (t : Progress) :
      t.finish (c.ownGrammar shared k) env = t.finish (c.ownGrammar [] k) noEnvironment := by
    refine finish_congr t rfl (fun f hf => ?_) (unset_noEnvironment _)
    exact (List.mem_append.1 hf).elim (own k f) (unset f)
  have whole (t : Progress) :
      t.finish ⟨shared, [], []⟩ env = t.finish ⟨[], [], []⟩ noEnvironment :=
    finish_congr t rfl unset (unset_noEnvironment _)
  simp only [parse_eq_ok, finish, whole, ownGrammar_bare]
  constructor
  · rintro ⟨⟨s, chosen, t, hc, ht, hi, ho, e⟩, unshared⟩
    rw [SharesNone, flagsTaken_of_choose hc] at unshared
    simp only [List.mem_append, not_or] at unshared
    have hc := choose.1 ⟨hc, fun f hf => (unshared f hf).1⟩
    have ht := (take _ (apart _) (.start _)).1 ⟨ht, fun f hf => (unshared f hf).2⟩
    exact ⟨s, chosen, t, hc, ht, hi, ho, e⟩
  · rintro ⟨s, chosen, t, hc, ht, hi, ho, e⟩
    obtain ⟨hc, before⟩ := choose.2 hc
    obtain ⟨ht, behind⟩ := (take _ (apart _) (.start _)).2 ht
    refine ⟨⟨s, chosen, t, hc, ht, hi, ho, e⟩, ?_⟩
    rw [SharesNone, flagsTaken_of_choose hc]
    simp only [List.mem_append, not_or]
    exact fun f hf => ⟨before f hf, behind f hf⟩

theorem parse_bare : c.parse [] noEnvironment ws = .ok p ↔
    p.outer = [] ∧ ∃ w rest t, ws = w :: rest ∧ c.find? w = some p.command ∧
      takeAll (c.grammar p.command) (c.grammar p.command).start rest = .ok t ∧
        t.finish (c.grammar p.command) noEnvironment = .ok p.inner := by
  simp only [parse_eq_ok, choose_bare, ownGrammar_bare]
  constructor
  · rintro ⟨s, ⟨before, command, words⟩, t, ⟨rfl, rfl, w, hw, rfl⟩, ht, hi, ho, rfl⟩
    have outer : [] = p.outer := Except.ok.inj ho
    exact ⟨outer.symm, w, words, t, rfl, hw, ht, hi⟩
  · rintro ⟨outer, w, rest, t, rfl, hw, ht, hi⟩
    refine ⟨_, ⟨_, p.command, rest⟩, t, ⟨rfl, rfl, w, hw, rfl⟩, ht, hi, ?_, rfl⟩
    rw [outer]
    rfl

end Parse

end Commands

theorem apart_of_names {g : Grammar} {shared : List Flag}
    (flags : ∀ f ∈ g.flags, ∀ f' ∈ shared, f'.name ≠ f.name)
    (places : ∀ p ∈ g.places, ∀ f' ∈ shared, f'.name ≠ p.name) : g.Apart shared := by
  intro name takes has
  cases has with
  | flag hf => exact flags _ hf
  | place hp => exact places _ hp

theorem ProgramVerb.grammar_apart (k : ProgramVerb) :
    (commands.grammar k).Apart sharedFlags := by
  cases k with
  | api v => cases v <;> exact apart_of_names (by decide) (by decide)
  | shell => exact apart_of_names (by decide) (by decide)

theorem ProgramVerb.standIn_eq_none (k : ProgramVerb) :
    ∀ f ∈ (commands.grammar k).flags, f.standIn = none := by
  cases k with
  | api v => cases v <;> decide
  | shell => decide

theorem ProgramVerb.find?_api {w : String} {v : Verb} :
    commands.find? w = some (.api v) ↔ w = v.name := by
  constructor
  · intro h
    simpa [commands, names] using List.find?_some h
  · rintro rfl
    cases v <;> decide

theorem ShellVerb.find?_api {w : String} {v : Verb} :
    commands.find? w = some (.api v) ↔ w = v.name := by
  constructor
  · intro h
    simpa [commands, names] using List.find?_some h
  · rintro rfl
    cases v <;> decide

theorem parse_bare_api {words : List String} {v : Verb} {outer inner : Matches} :
    ShellVerb.commands.parse [] noEnvironment words = .ok ⟨outer, .api v, inner⟩ ↔
      ProgramVerb.commands.parse [] noEnvironment words = .ok ⟨outer, .api v, inner⟩ := by
  simp only [Commands.parse_bare, ShellVerb.find?_api, ProgramVerb.find?_api]
  exact Iff.rfl

theorem parseShellWords_eq_ok {words : List String} {command : ApiCommand} :
    parseShellWords words = .ok (.api command) ↔ ∃ outer v inner,
      ShellVerb.commands.parse [] noEnvironment words = .ok ⟨outer, .api v, inner⟩ ∧
        v.read inner = command := by
  constructor
  · intro h
    obtain ⟨⟨outer, k, inner⟩, hp, h⟩ := bind_eq_ok.1 h
    cases k with
    | api v =>
      cases h
      exact ⟨outer, v, inner, hp, rfl⟩
    | setUrl => cases h
    | logout => cases h
    | exit => cases h
  · rintro ⟨outer, v, inner, hp, rfl⟩
    exact bind_eq_ok.2 ⟨_, hp, rfl⟩

theorem parseArguments_eq_ok {env : Environment} {words : List String} {settings : Settings}
    {command : ApiCommand} :
    parseArguments env words = .ok (settings, .api command) ↔ ∃ outer v inner,
      ProgramVerb.commands.parse sharedFlags env words = .ok ⟨outer, .api v, inner⟩ ∧
        settingsOf (sharedValue (⟨outer, .api v, inner⟩ : Commands.Parsed ProgramVerb) env) =
          settings ∧ v.read inner = command := by
  constructor
  · intro h
    obtain ⟨⟨outer, k, inner⟩, hp, h⟩ := bind_eq_ok.1 h
    cases k with
    | api v =>
      cases h
      exact ⟨outer, v, inner, hp, rfl, rfl⟩
    | shell => cases h
  · rintro ⟨outer, v, inner, hp, rfl, rfl⟩
    exact bind_eq_ok.2 ⟨_, hp, rfl⟩

def defaultSettings : Settings where
  apiUrl := defaultUrl
  token := none
  timeout := none
  output := .table
  logLevel := defaultLogLevel
  logFormat := none

theorem sharedValue_of_bare {env : Environment} (unset : Unset env sharedFlags)
    {words : List String} {p : Commands.Parsed ProgramVerb}
    (h : ProgramVerb.commands.parse [] noEnvironment words = .ok p) {f : Flag}
    (hf : f ∈ sharedFlags) : sharedValue p env f.name = none := by
  have inner : p.inner.all f.name = [] := by
    refine List.eq_nil_iff_forall_not_mem.2 fun v hv => ?_
    obtain ⟨takes, has, -⟩ := (Commands.fit_of_parse h).2.1.yields_of_all hv
    rw [Commands.ownGrammar_bare] at has
    exact p.command.grammar_apart _ _ has f hf rfl
  have outer : p.outer.all f.name = [] := by
    rw [(Commands.parse_bare.1 h).1]
    rfl
  unfold sharedValue Matches.first?
  rw [inner, outer]
  cases hf' : sharedFlags.find? (·.name == f.name) with
  | none => rfl
  | some f' =>
    have fallback := unset f' (List.mem_of_find?_eq_some hf')
    simp [fallback]

theorem settingsOf_eq_default {value : String → Option String}
    (h : ∀ f ∈ sharedFlags, value f.name = none) : settingsOf value = defaultSettings := by
  simp only [sharedFlags, List.forall_mem_cons] at h
  obtain ⟨apiUrl, token, timeout, output, logLevel, logFormat, -⟩ := h
  simp only [settingsOf, apiUrl, token, timeout, output, logLevel, logFormat]
  rfl

/-- The program and its shell read a command that calls the backend from the same words, those that
choose the program's settings apart. -/
theorem parseShellWords_tfae {env : Environment} (unset : Unset env sharedFlags)
    (words : List String) (command : ApiCommand) : List.TFAE [
      parseShellWords words = .ok (.api command),
      parseArguments env words = .ok (defaultSettings, .api command) ∧
        ProgramVerb.commands.SharesNone sharedFlags words,
      ∃ settings, parseArguments env words = .ok (settings, .api command) ∧
        ProgramVerb.commands.SharesNone sharedFlags words] := by
  have own (k : ProgramVerb) : Unset env (ProgramVerb.commands.grammar k).flags := by
    intro f hf
    rw [k.standIn_eq_none f hf, Option.bind_none]
  have program {p} := @Commands.parse_iff _ ProgramVerb.commands sharedFlags env words p
    ProgramVerb.grammar_apart own unset
  tfae_have 1 → 2 := by
    intro h
    obtain ⟨outer, v, inner, hp, read⟩ := parseShellWords_eq_ok.1 h
    have bare := parse_bare_api.1 hp
    obtain ⟨whole, unshared⟩ := program.2 bare
    have settings := settingsOf_eq_default fun f hf => sharedValue_of_bare unset bare hf
    exact ⟨parseArguments_eq_ok.2 ⟨outer, v, inner, whole, settings, read⟩, unshared⟩
  tfae_have 2 → 3 := fun ⟨h, unshared⟩ => ⟨defaultSettings, h, unshared⟩
  tfae_have 3 → 1 := by
    rintro ⟨settings, h, unshared⟩
    obtain ⟨outer, v, inner, whole, -, read⟩ := parseArguments_eq_ok.1 h
    have bare := program.1 ⟨whole, unshared⟩
    exact parseShellWords_eq_ok.2 ⟨outer, v, inner, parse_bare_api.2 bare, read⟩
  tfae_finish

theorem parseArguments_remove :
    Unset noEnvironment sharedFlags ∧
      parseShellWords ["remove", "--delete-file", "--", "--token"] =
        .ok (.api (.remove "--token" true)) ∧
      parseArguments noEnvironment ["remove", "--delete-file", "--", "--token"] =
        .ok (defaultSettings, .api (.remove "--token" true)) := by
  have unset := unset_noEnvironment sharedFlags
  have shell : parseShellWords ["remove", "--delete-file", "--", "--token"] =
      .ok (.api (.remove "--token" true)) := by decide +kernel
  obtain ⟨program, -⟩ := ((parseShellWords_tfae unset _ _).out 0 1).1 shell
  exact ⟨unset, shell, program⟩

end DownloadClient.Command
