import Mathlib
import DownloadClient.Command.Line
import DownloadClient.Proofs.Json.Value

/-! What is found among words. Whatever is found for a name was read as the grammar reads values of
this name, and nothing at all only for a flag that takes no value. So the URLs that the program and
its shell are given are addresses. -/

namespace DownloadClient.Command

open DownloadClient.Json DownloadClient.Text DownloadClient.Web

/-- What a name may take in a grammar. -/
inductive Grammar.Has (g : Grammar) : String → Takes → Prop
  | flag {f : Flag} (h : f ∈ g.flags) : g.Has f.name f.takes
  | place {p : Place} (h : p ∈ g.places) : g.Has p.name (.value p.kind)

def Takes.Yields : Takes → String → Prop
  | .nothing, _ => False
  | .value kind, v | .values kind, v => ∃ w, kind.read w = .ok v

structure Matches.Fit (m : Matches) (g : Grammar) : Prop where
  read : ∀ e ∈ m, ∀ v ∈ e.2, ∃ takes, g.Has e.1 takes ∧ takes.Yields v
  filled : ∀ e ∈ m, e.2 = [] → g.Has e.1 .nothing

theorem yields_of_mapM {kind : ValueKind} {words values : List String}
    (h : words.mapM kind.read = .ok values) :
    (∀ v ∈ values, ∃ w, kind.read w = .ok v) ∧ values.length = words.length := by
  induction words generalizing values with
  | nil =>
    cases h
    simp
  | cons w words ih =>
    rw [List.mapM_cons] at h
    obtain ⟨v, hv, h⟩ := bind_eq_ok.1 h
    obtain ⟨values, hvs, h⟩ := bind_eq_ok.1 h
    cases h
    obtain ⟨read, length⟩ := ih hvs
    exact ⟨List.forall_mem_cons.2 ⟨⟨w, hv⟩, read⟩, by simp [length]⟩

theorem commaParts_ne_nil (s : String) : commaParts s ≠ [] := by
  simp [commaParts, splitWhen_ne_nil]

namespace Matches.Fit

variable {g : Grammar} {m m' : Matches} {name : String} {takes : Takes}

theorem nil (g : Grammar) : Fit [] g := ⟨by simp, by simp⟩

theorem mem_of_get? {values : List String} (h : m.get? name = some values) :
    (name, values) ∈ m := by
  obtain ⟨before, after, rfl, -⟩ := List.lookup_eq_some_iff.1 h
  simp

theorem yields_of_all (h : m.Fit g) {v : String} (hv : v ∈ m.all name) :
    ∃ takes, g.Has name takes ∧ takes.Yields v := by
  unfold all at hv
  cases hg : m.get? name with
  | none => simp [hg] at hv
  | some values =>
    rw [hg, Option.getD_some] at hv
    exact h.read _ (mem_of_get? hg) v hv

theorem add (h : m.Fit g) (has : g.Has name takes) {values : List String}
    (yields : ∀ v ∈ values, takes.Yields v) (filled : values = [] → takes = .nothing) :
    (m.add name values).Fit g where
  read := by
    refine List.forall_mem_cons.2 ⟨fun v hv => ?_, h.read⟩
    obtain hv | hv := List.mem_append.1 hv
    · exact h.yields_of_all hv
    · exact ⟨takes, has, yields v hv⟩
  filled := by
    refine List.forall_mem_cons.2 ⟨fun e => ?_, h.filled⟩
    exact filled (List.append_eq_nil_iff.1 e).2 ▸ has

theorem accept (h : m.Fit g) (has : g.Has name takes) {words : List String}
    (ha : accept m name takes words = .ok m') : m'.Fit g := by
  unfold Command.accept at ha
  split at ha
  · split at ha
    · cases ha
    · cases ha
      exact h.add has (by simp) (by simp)
  · cases ha
  · next kind words nonempty =>
    split at ha
    · cases ha
    · obtain ⟨values, hv, ha⟩ := bind_eq_ok.1 ha
      cases ha
      obtain ⟨read, length⟩ := yields_of_mapM hv
      refine h.add has read ?_
      -- Where a value is asked for there was a word, so there is a value.
      rintro rfl
      exact absurd (List.length_eq_zero_iff.1 length.symm) nonempty
  · next kind words nonempty =>
    obtain ⟨values, hv, ha⟩ := bind_eq_ok.1 ha
    cases ha
    obtain ⟨read, length⟩ := yields_of_mapM hv
    refine h.add has read ?_
    rintro rfl
    have none := List.flatMap_eq_nil_iff.1 (List.length_eq_zero_iff.1 length.symm)
    obtain ⟨w, ws, rfl⟩ := List.exists_cons_of_ne_nil nonempty
    exact absurd (none w (by simp)) (commaParts_ne_nil w)

end Matches.Fit

/-- What was found fits the grammar, and so does what may still be found. -/
structure Progress.Fit (s : Progress) (g : Grammar) : Prop where
  found : s.found.Fit g
  pending : ∀ p ∈ s.pending, g.Has p.name p.takes
  places : ∀ p ∈ s.places, p ∈ g.places

namespace Progress.Fit

variable {g : Grammar} {s s' : Progress}

theorem start (g : Grammar) : Fit ⟨[], none, g.places, false⟩ g :=
  ⟨.nil g, by simp, by simp⟩

theorem settle (h : s.Fit g) (hs : s.settle = .ok s') : s'.Fit g := by
  unfold Progress.settle at hs
  split at hs
  · cases hs
    exact h
  · next p hp =>
    obtain ⟨found, hf, hs⟩ := bind_eq_ok.1 hs
    cases hs
    exact ⟨h.found.accept (h.pending p hp) hf, by simp, h.places⟩

theorem expect (h : s.Fit g) {name : String} {takes : Takes} (has : g.Has name takes)
    {words : List String} (hs : s.expect name takes words = .ok s') : s'.Fit g := by
  obtain ⟨t, ht, hs⟩ := bind_eq_ok.1 hs
  cases hs
  have settled := h.settle ht
  exact ⟨settled.found, by simpa using has, settled.places⟩

theorem give (h : s.Fit g) (w : String) : (s.give w).Fit g where
  found := h.found
  pending := by
    intro p hp
    obtain ⟨q, hq, rfl⟩ := Option.map_eq_some_iff.1 hp
    exact h.pending q hq
  places := h.places

theorem takeLong (h : s.Fit g) {name : String} {attached : Option String}
    (hs : takeLong g s name attached = .ok s') : s'.Fit g := by
  unfold Command.takeLong at hs
  split at hs
  · split at hs
    · cases hs
    · obtain ⟨t, -, hs⟩ := bind_eq_ok.1 hs
      cases hs
  · split at hs
    · cases hs
    · next f hf =>
      have has : g.Has f.name f.takes := .flag (List.mem_of_find?_eq_some hf)
      split at hs
      · cases hs
      · next ht =>
        obtain ⟨t, he, hs⟩ := bind_eq_ok.1 hs
        exact (h.expect (ht ▸ has) he).settle hs
      · obtain ⟨t, he, hs⟩ := bind_eq_ok.1 hs
        exact (h.expect has he).settle hs
      · exact h.expect has hs

theorem takePlaced (h : s.Fit g) {w : String} {full : UsageError}
    (hs : takePlaced s w full = .ok s') : s'.Fit g := by
  unfold Command.takePlaced at hs
  split at hs
  · cases hs
  · next p rest hp =>
    obtain ⟨t, he, hs⟩ := bind_eq_ok.1 hs
    cases hs
    have places : ∀ q ∈ p :: rest, q ∈ g.places := hp ▸ h.places
    have expected := h.expect (.place (places p (by simp))) he
    exact ⟨expected.found, expected.pending, fun q hq => places q (by simp [hq])⟩

theorem takeWord (h : s.Fit g) {w : String} {full : UsageError}
    (hs : takeWord g s w full = .ok s') : s'.Fit g := by
  unfold Command.takeWord at hs
  split at hs
  · exact h.takePlaced hs
  · split at hs
    · cases hs
      exact ⟨h.found, h.pending, h.places⟩
    · split at hs
      · exact h.takeLong hs
      · unfold takeShort at hs
        split at hs
        · obtain ⟨t, -, hs⟩ := bind_eq_ok.1 hs
          cases hs
        · cases hs
      · split at hs
        · cases hs
          exact h.give w
        · exact h.takePlaced hs

theorem takeAll (h : s.Fit g) {ws : List String} (hs : takeAll g s ws = .ok s') : s'.Fit g := by
  induction ws generalizing s with
  | nil =>
    cases hs
    exact h
  | cons w ws ih =>
    obtain ⟨t, ht, hs⟩ := bind_eq_ok.1 hs
    exact ih (h.takeWord ht) hs

theorem finish (h : s.Fit g) {env : Environment} {m : Matches} (hm : s.finish g env = .ok m) :
    m.Fit g ∧ ∀ name ∈ g.required, m.has name = true := by
  obtain ⟨t, ht, hm⟩ := bind_eq_ok.1 hm
  obtain ⟨_, -, hm⟩ := bind_eq_ok.1 hm
  split at hm
  · next required =>
    cases hm
    exact ⟨(h.settle ht).found, List.all_eq_true.1 required⟩
  · cases hm

end Progress.Fit

namespace Commands

variable {κ : Type} {c : Commands κ}

theorem fit_of_choose {g : Grammar} {s t : Progress} {ws : List String} {chosen : Chosen κ}
    (h : s.Fit g) (hc : c.choose g s ws = .ok (t, some chosen)) : chosen.before.Fit g := by
  induction ws generalizing s with
  | nil => cases hc
  | cons w ws ih =>
    rw [choose] at hc
    split at hc
    · obtain ⟨u, hu, hc⟩ := bind_eq_ok.1 hc
      exact ih (h.takeWord hu) hc
    · split at hc
      · cases hc
        exact h
      · cases hc

def ownGrammar (c : Commands κ) (shared : List Flag) (k : κ) : Grammar :=
  { c.grammar k with flags := (c.grammar k).flags ++ shared }

theorem fit_of_parse {shared : List Flag} {env : Environment} {ws : List String} {p : Parsed κ}
    (h : c.parse shared env ws = .ok p) : p.outer.Fit ⟨shared, [], []⟩ ∧
      p.inner.Fit (c.ownGrammar shared p.command) ∧
      ∀ name ∈ (c.grammar p.command).required, p.inner.has name = true := by
  obtain ⟨⟨s, chosen⟩, hc, h⟩ := bind_eq_ok.1 h
  cases chosen with
  | none =>
    obtain ⟨m, -, h⟩ := bind_eq_ok.1 h
    cases h
  | some chosen =>
    obtain ⟨t, ht, h⟩ := bind_eq_ok.1 h
    obtain ⟨inner, hi, h⟩ := bind_eq_ok.1 h
    obtain ⟨outer, ho, h⟩ := bind_eq_ok.1 h
    cases h
    have before := fit_of_choose (.start ⟨shared, [], []⟩) hc
    have own := Progress.Fit.takeAll (.start (c.ownGrammar shared chosen.command)) ht
    exact ⟨(before.finish ho).1, own.finish hi⟩

end Commands

def Accepted (url : String) : Prop := ∃ s, parseUrl s = .ok url

theorem accepted_of_read {s url : String} (h : ValueKind.url.read s = .ok url) : Accepted url := by
  unfold ValueKind.read at h
  cases hs : parseUrl s with
  | error e =>
    rw [hs] at h
    cases h
  | ok t =>
    rw [hs] at h
    cases h
    exact ⟨s, hs⟩

structure Grammar.TakesUrl (g : Grammar) (name : String) : Prop where
  flags : ∀ f ∈ g.flags, f.name = name → f.takes = .value .url
  places : ∀ p ∈ g.places, p.name = name → p.kind = .url

theorem Grammar.TakesUrl.eq {g : Grammar} {name : String} (h : g.TakesUrl name) {takes : Takes}
    (has : g.Has name takes) : takes = .value .url := by
  cases has with
  | flag hf => exact h.flags _ hf rfl
  | place hp => exact congrArg Takes.value (h.places _ hp rfl)

namespace Matches.Fit

variable {m : Matches} {g : Grammar} {name : String}

theorem accepted (h : m.Fit g) (urls : g.TakesUrl name) {url : String}
    (hu : m.first? name = some url) : Accepted url := by
  obtain ⟨takes, has, yields⟩ := h.yields_of_all (List.mem_of_head? hu)
  obtain rfl := urls.eq has
  obtain ⟨s, hs⟩ := yields
  exact accepted_of_read hs

theorem exists_first? (h : m.Fit g) (urls : g.TakesUrl name) (has : m.has name = true) :
    ∃ url, m.first? name = some url := by
  obtain ⟨values, hv⟩ := Option.isSome_iff_exists.1 has
  cases values with
  | nil => cases urls.eq (h.filled _ (mem_of_get? hv) rfl)
  | cons url rest => exact ⟨url, by simp [first?, all, hv]⟩

end Matches.Fit

theorem sharedFlags_takesUrl : Grammar.TakesUrl ⟨sharedFlags, [], []⟩ "api-url" :=
  ⟨by decide, by decide⟩

theorem ownGrammar_takesUrl (k : ProgramVerb) :
    (ProgramVerb.commands.ownGrammar sharedFlags k).TakesUrl "api-url" := by
  cases k with
  | api v => cases v <;> exact ⟨by decide, by decide⟩
  | shell => exact ⟨by decide, by decide⟩

theorem accepted_of_sharedValue {p : Commands.Parsed ProgramVerb} {env : Environment}
    (outer : p.outer.Fit ⟨sharedFlags, [], []⟩)
    (inner : p.inner.Fit (ProgramVerb.commands.ownGrammar sharedFlags p.command)) {url : String}
    (h : sharedValue p env "api-url" = some url) : Accepted url := by
  -- It stands behind the command, or before it, or in the environment.
  obtain h | ⟨-, h⟩ := Option.or_eq_some_iff.1 h
  · exact inner.accepted (ownGrammar_takesUrl p.command) h
  · obtain h | ⟨-, h⟩ := Option.or_eq_some_iff.1 h
    · exact outer.accepted sharedFlags_takesUrl h
    · obtain ⟨f, hf, h⟩ := Option.bind_eq_some_iff.1 h
      obtain ⟨value, -, h⟩ := Option.bind_eq_some_iff.1 h
      obtain ⟨m, hm, h⟩ := Option.bind_eq_some_iff.1 h
      have has : Grammar.Has ⟨sharedFlags, [], []⟩ f.name f.takes :=
        .flag (List.mem_of_find?_eq_some hf)
      cases ha : accept [] f.name f.takes [value] with
      | error e =>
        rw [ha] at hm
        cases hm
      | ok m' =>
        rw [ha] at hm
        cases hm
        exact ((Matches.Fit.nil _).accept has ha).accepted sharedFlags_takesUrl h

theorem accepted_of_parseArguments {env : Environment} {words : List String} {settings : Settings}
    {command : ProgramCommand} (h : parseArguments env words = .ok (settings, command)) :
    Accepted settings.apiUrl := by
  obtain ⟨p, hp, h⟩ := bind_eq_ok.1 h
  cases h
  obtain ⟨outer, inner, -⟩ := Commands.fit_of_parse hp
  change Accepted ((sharedValue p env "api-url").getD defaultUrl)
  cases hv : sharedValue p env "api-url" with
  | none => exact ⟨defaultUrl, by decide +kernel⟩
  | some url => exact accepted_of_sharedValue outer inner hv

theorem accepted_of_parseLine {line url : String}
    (h : parseLine line = .ok (some (.setUrl url))) : Accepted url := by
  unfold parseLine at h
  split at h
  · cases h
  · cases h
  · next words _ _ =>
    cases hw : parseShellWords words with
    | error e =>
      rw [hw] at h
      cases h
    | ok command =>
      rw [hw] at h
      obtain rfl : command = .setUrl url := by simpa [Except.mapError, Except.map] using h
      obtain ⟨p, hp, hc⟩ := bind_eq_ok.1 hw
      obtain ⟨-, inner, required⟩ := Commands.fit_of_parse hp
      cases hk : p.command with
      | setUrl =>
        have urls : (ShellVerb.commands.ownGrammar [] p.command).TakesUrl "url" := by
          rw [hk]
          exact ⟨by decide, by decide⟩
        have needed : "url" ∈ (ShellVerb.commands.grammar p.command).required := by
          rw [hk]
          exact List.mem_singleton_self _
        have has := required "url" needed
        obtain ⟨value, hv⟩ := inner.exists_first? urls has
        rw [hk, ShellVerb.read, hv] at hc
        cases hc
        exact inner.accepted urls hv
      | _ =>
        rw [hk] at hc
        cases hc

end DownloadClient.Command
