import DownloadClient.Proofs.Usage

/-! What the words of a command give: for each name the words attached to its flag, right behind the
flag or in its place, in their order. The arguments of a command are these words as they stand. -/

namespace DownloadClient.Command

open DownloadClient.Api DownloadClient.Json DownloadClient.Text

/-- Words in order, what they give for which name, and the flag that the next word may belong to. -/
inductive Grammar.Gave (g : Grammar) : List String → List (String × String) → Option String → Prop
  | nil : g.Gave [] [] none
  | rest {ws l o} (h : g.Gave ws l o) : g.Gave (ws ++ ["--"]) l none
  | alone {ws l o w name f} (h : g.Gave ws l o) (hw : longFlag? w = some (name, none))
      (hf : g.flag? name = some f) (takes : f.takes = .nothing) : g.Gave (ws ++ [w]) l none
  | attached {ws l o w name v f} (h : g.Gave ws l o) (hw : longFlag? w = some (name, some v))
      (hf : g.flag? name = some f) : g.Gave (ws ++ [w]) (l ++ [(f.name, v)]) none
  | opened {ws l o w name f} (h : g.Gave ws l o) (hw : longFlag? w = some (name, none))
      (hf : g.flag? name = some f) (takes : f.takes ≠ .nothing) :
      g.Gave (ws ++ [w]) l (some f.name)
  | behind {ws l name} (h : g.Gave ws l (some name)) (w : String) :
      g.Gave (ws ++ [w]) (l ++ [(name, w)]) none
  | placed {ws l o p} (h : g.Gave ws l o) (hp : p ∈ g.places) (w : String) :
      g.Gave (ws ++ [w]) (l ++ [(p.name, w)]) none

def Takes.Reads : Takes → List String → List String → Prop
  | .nothing, ws, vs => ws = [] ∧ vs = []
  | .value kind, ws, vs => ws.mapM kind.read = .ok vs
  | .values kind, ws, vs => (ws.flatMap commaParts).mapM kind.read = .ok vs

inductive Matches.Found (g : Grammar) : List (String × String) → Matches → Prop
  | nil : Found g [] []
  | add {l m name takes words values} (h : Found g l m) (has : g.Has name takes)
      (reads : takes.Reads words values)
      (once : ∀ kind, takes = .value kind → m.all name = [] ∧ words.length ≤ 1) :
      Found g (l ++ words.map (Prod.mk name)) (m.add name values)

theorem Matches.all_eq_nil {m : Matches} {name : String} (h : ¬ m.has name = true) :
    m.all name = [] := by
  simp only [has, Option.not_isSome_iff_eq_none] at h
  simp [all, h]

namespace Matches.Found

variable {g : Grammar} {l : List (String × String)} {m m' : Matches} {name : String}
  {takes : Takes} {words : List String}

theorem accept (h : Found g l m) (has : g.Has name takes) (alone : takes = .nothing → words = [])
    (one : words.length ≤ 1) (ha : accept m name takes words = .ok m') :
    Found g (l ++ words.map (Prod.mk name)) m' := by
  unfold Command.accept at ha
  split at ha
  · split at ha
    · cases ha
    · cases ha
      exact .add h has ⟨alone rfl, rfl⟩ nofun
  · cases ha
  · split at ha
    · cases ha
    · next new =>
      obtain ⟨values, hv, ha⟩ := bind_eq_ok.1 ha
      cases ha
      exact .add h has hv fun _ _ => ⟨all_eq_nil new, one⟩
  · obtain ⟨values, hv, ha⟩ := bind_eq_ok.1 ha
    cases ha
    exact .add h has hv nofun

end Matches.Found

namespace Progress

def held (s : Progress) : List (String × String) :=
  match s.pending with
  | none => []
  | some p => p.words.map (Prod.mk p.name)

/-- What was found and what is held are what the words so far give. -/
structure Follows (g : Grammar) (ws : List String) (l : List (String × String))
    (o : Option String) (s : Progress) : Prop where
  gave : g.Gave ws (l ++ s.held) o
  found : s.found.Found g l
  has : ∀ p ∈ s.pending, g.Has p.name p.takes ∧ p.takes ≠ .nothing ∧ p.words.length ≤ 1
  awaits : ∀ p ∈ s.pending, p.words = [] → s.placesOnly = false → o = some p.name
  places : ∀ p ∈ s.places, p ∈ g.places

theorem settle_eq_ok {s t : Progress} (h : s.settle = .ok t) :
    t.pending = none ∧ t.placesOnly = s.placesOnly ∧ t.places = s.places := by
  unfold settle at h
  split at h
  · next hp =>
    cases h
    exact ⟨hp, rfl, rfl⟩
  · obtain ⟨found, -, h⟩ := bind_eq_ok.1 h
    cases h
    exact ⟨rfl, rfl, rfl⟩

namespace Follows

variable {g : Grammar} {ws : List String} {l : List (String × String)} {o : Option String}
  {s s' : Progress}

theorem start (g : Grammar) : Follows g [] [] none ⟨[], none, g.places, false⟩ :=
  ⟨.nil, .nil, by simp, by simp, by simp⟩

theorem found_settle (h : Follows g ws l o s) (hs : s.settle = .ok s') :
    s'.found.Found g (l ++ s.held) := by
  unfold Progress.settle at hs
  split at hs
  · next hp =>
    cases hs
    simpa [held, hp] using h.found
  · next p hp =>
    obtain ⟨has, takes, one⟩ := h.has p hp
    obtain ⟨found, hf, hs⟩ := bind_eq_ok.1 hs
    cases hs
    simpa [held, hp] using h.found.accept has (fun e => absurd e takes) one hf

theorem accepted (h : Follows g ws l o s) {name : String} {takes : Takes} {words : List String}
    {w : String} {t : Progress} (has : g.Has name takes) (alone : takes = .nothing → words = [])
    (one : words.length ≤ 1)
    (gave : g.Gave (ws ++ [w]) (l ++ s.held ++ words.map (Prod.mk name)) none)
    (he : s.expect name takes words = .ok t) (hs : t.settle = .ok s') :
    ∃ l', Follows g (ws ++ [w]) l' none s' := by
  obtain ⟨u, hu, he⟩ := bind_eq_ok.1 he
  cases he
  obtain ⟨found, hf, hs⟩ := bind_eq_ok.1 hs
  cases hs
  obtain ⟨-, -, places⟩ := settle_eq_ok hu
  have accepted := (h.found_settle hu).accept has alone one hf
  exact ⟨_, by simpa [held] using gave, accepted, by simp, by simp, places ▸ h.places⟩

theorem expect (h : Follows g ws l o s) {name : String} {takes : Takes} {words : List String}
    {w : String} {o' : Option String} (has : g.Has name takes) (some : takes ≠ .nothing)
    (gave : g.Gave (ws ++ [w]) (l ++ s.held ++ words.map (Prod.mk name)) o')
    (one : words.length ≤ 1) (awaits : words = [] → o' = .some name)
    (hs : s.expect name takes words = .ok s') :
    Follows g (ws ++ [w]) (l ++ s.held) o' s' := by
  obtain ⟨t, ht, hs⟩ := bind_eq_ok.1 hs
  cases hs
  have found := h.found_settle ht
  obtain ⟨-, -, places⟩ := settle_eq_ok ht
  exact ⟨by simpa [held] using gave, found, by simpa using ⟨has, some, one⟩,
    by simpa using fun e _ => awaits e, places ▸ h.places⟩

theorem takeLong (h : Follows g ws l o s) {w name : String} {attached : Option String}
    (hw : longFlag? w = some (name, attached)) (hs : takeLong g s name attached = .ok s') :
    ∃ l' o', Follows g (ws ++ [w]) l' o' s' := by
  unfold Command.takeLong at hs
  split at hs
  · split at hs
    · cases hs
    · obtain ⟨t, -, hs⟩ := bind_eq_ok.1 hs
      cases hs
  · split at hs
    · cases hs
    · next f hf =>
      have has : g.Has f.name f.takes := .flag (List.mem_of_find?_eq_some hf)
      split at hs
      · cases hs
      · next ht =>
        obtain ⟨t, he, hs⟩ := bind_eq_ok.1 hs
        obtain ⟨l', h'⟩ := h.accepted (ht ▸ has) (fun _ => rfl) (by simp)
          (by simpa using .alone h.gave hw hf ht) he hs
        exact ⟨l', _, h'⟩
      · next v some =>
        obtain ⟨t, he, hs⟩ := bind_eq_ok.1 hs
        obtain ⟨l', h'⟩ := h.accepted has (fun e => absurd e some) le_rfl
          (.attached h.gave hw hf) he hs
        exact ⟨l', _, h'⟩
      · next some =>
        exact ⟨_, _, h.expect has some (by simpa using .opened h.gave hw hf some)
          (by simp) (fun _ => rfl) hs⟩

theorem takePlaced (h : Follows g ws l o s) {w : String} {full : UsageError}
    (hs : takePlaced s w full = .ok s') : ∃ l' o', Follows g (ws ++ [w]) l' o' s' := by
  unfold Command.takePlaced at hs
  split at hs
  · cases hs
  · next p rest hp =>
    obtain ⟨t, he, hs⟩ := bind_eq_ok.1 hs
    cases hs
    have places : ∀ q ∈ p :: rest, q ∈ g.places := hp ▸ h.places
    have mem := places p (by simp)
    have next := h.expect (.place mem) nofun (.placed h.gave mem w) le_rfl (by simp) he
    exact ⟨_, _, next.gave, next.found, next.has, next.awaits, fun q hq => places q (by simp [hq])⟩

theorem give (h : Follows g ws l o s) (awaits : s.awaits = true) (places : s.placesOnly = false)
    (w : String) : Follows g (ws ++ [w]) l none (s.give w) := by
  obtain ⟨p, hp, empty⟩ := (Option.any_eq_true _ _).1 awaits
  have empty : p.words = [] := by simpa using empty
  obtain rfl := h.awaits p hp empty places
  have gave := h.gave.behind w
  refine ⟨?_, h.found, ?_, ?_, h.places⟩
  · simpa [held, Progress.give, hp, empty] using gave
  · obtain ⟨has, takes, -⟩ := h.has p hp
    simp [Progress.give, hp, empty, has, takes]
  · simp [Progress.give, hp]

theorem takeWord (h : Follows g ws l o s) {w : String} {full : UsageError}
    (hs : takeWord g s w full = .ok s') : ∃ l' o', Follows g (ws ++ [w]) l' o' s' := by
  unfold Command.takeWord at hs
  split at hs
  · exact h.takePlaced hs
  · next free =>
    split at hs
    · next dashes =>
      cases hs
      subst dashes
      exact ⟨_, _, .rest h.gave, h.found, h.has, nofun, h.places⟩
    · split at hs
      · next hw => exact h.takeLong hw hs
      · unfold takeShort at hs
        split at hs
        · obtain ⟨t, -, hs⟩ := bind_eq_ok.1 hs
          cases hs
        · cases hs
      · split at hs
        · next awaits =>
          cases hs
          exact ⟨_, _, h.give awaits (Bool.eq_false_iff.2 free) w⟩
        · exact h.takePlaced hs

theorem takeAll (h : Follows g ws l o s) {vs : List String} (hs : takeAll g s vs = .ok s') :
    ∃ l' o', Follows g (ws ++ vs) l' o' s' := by
  induction vs generalizing s ws l o with
  | nil =>
    cases hs
    exact ⟨l, o, by simpa using h⟩
  | cons w vs ih =>
    obtain ⟨t, ht, hs⟩ := bind_eq_ok.1 hs
    obtain ⟨l', o', next⟩ := h.takeWord ht
    simpa using ih next hs

theorem finish (h : Follows g ws l o s) {env : Environment} {m : Matches}
    (hm : s.finish g env = .ok m) : ∃ l, g.Gave ws l o ∧ m.Found g l := by
  obtain ⟨t, ht, hm⟩ := bind_eq_ok.1 hm
  obtain ⟨_, -, hm⟩ := bind_eq_ok.1 hm
  split at hm
  · cases hm
    exact ⟨_, h.gave, h.found_settle ht⟩
  · cases hm

end Follows
end Progress

namespace Commands

variable {κ : Type} {c : Commands κ}

theorem words_of_choose {g : Grammar} {s t : Progress} {ws : List String} {chosen : Chosen κ}
    (h : c.choose g s ws = .ok (t, some chosen)) :
    ∃ front w, ws = front ++ w :: chosen.words ∧ c.find? w = some chosen.command := by
  induction ws generalizing s with
  | nil => cases h
  | cons w ws ih =>
    rw [choose] at h
    split at h
    · obtain ⟨u, -, h⟩ := bind_eq_ok.1 h
      obtain ⟨front, v, rfl, hv⟩ := ih h
      exact ⟨w :: front, v, rfl, hv⟩
    · split at h
      · next k hk =>
        cases h
        exact ⟨[], w, rfl, hk⟩
      · cases h

theorem found_of_parse {shared : List Flag} {env : Environment} {ws : List String} {p : Parsed κ}
    (h : c.parse shared env ws = .ok p) :
    ∃ front w rest l o, ws = front ++ w :: rest ∧ c.find? w = some p.command ∧
      (c.ownGrammar shared p.command).Gave rest l o ∧
      p.inner.Found (c.ownGrammar shared p.command) l := by
  obtain ⟨⟨s, chosen⟩, hc, h⟩ := bind_eq_ok.1 h
  cases chosen with
  | none =>
    obtain ⟨m, -, h⟩ := bind_eq_ok.1 h
    cases h
  | some chosen =>
    obtain ⟨t, ht, h⟩ := bind_eq_ok.1 h
    obtain ⟨inner, hi, h⟩ := bind_eq_ok.1 h
    obtain ⟨outer, -, h⟩ := bind_eq_ok.1 h
    cases h
    obtain ⟨front, w, hw, hk⟩ := words_of_choose hc
    have start := Progress.Follows.start (c.ownGrammar shared chosen.command)
    obtain ⟨l, o, follows⟩ := start.takeAll ht
    obtain ⟨l', gave, found⟩ := follows.finish hi
    exact ⟨front, w, chosen.words, l', o, hw, hk, gave, found⟩

end Commands

def wordsFor (name : String) (l : List (String × String)) : List String :=
  (l.filter (·.1 = name)).map (·.2)

@[simp] theorem wordsFor_append (name : String) (l l' : List (String × String)) :
    wordsFor name (l ++ l') = wordsFor name l ++ wordsFor name l' := by
  simp [wordsFor]

@[simp] theorem wordsFor_map (name other : String) (words : List String) :
    wordsFor name (words.map (Prod.mk other)) = if name = other then words else [] := by
  by_cases h : name = other
  · simp [wordsFor, h, List.filter_map, Function.comp_def]
  · simp [wordsFor, h, List.filter_map, Function.comp_def, Ne.symm h]

theorem Matches.all_add (m : Matches) (name other : String) (values : List String) :
    (m.add other values).all name =
      if name = other then m.all other ++ values else m.all name := by
  by_cases h : name = other
  · simp [all, add, get?, h]
  · have other' : (name == other) = false := by simpa using h
    simp [all, add, get?, List.lookup_cons, h, other']

structure Grammar.TakesOnly (g : Grammar) (name : String) (takes : Takes) : Prop where
  flags : ∀ f ∈ g.flags, f.name = name → f.takes = takes
  places : ∀ p ∈ g.places, p.name = name → .value p.kind = takes

theorem Grammar.TakesOnly.eq {g : Grammar} {name : String} {takes takes' : Takes}
    (h : g.TakesOnly name takes) (has : g.Has name takes') : takes' = takes := by
  cases has with
  | flag hf => exact h.flags _ hf rfl
  | place hp => exact h.places _ hp rfl

theorem eq_of_mapM_any {words values : List String}
    (h : words.mapM ValueKind.any.read = .ok values) : values = words := by
  induction words generalizing values with
  | nil => cases h; rfl
  | cons w words ih =>
    rw [List.mapM_cons] at h
    obtain ⟨v, hv, h⟩ := bind_eq_ok.1 h
    obtain ⟨values, hvs, h⟩ := bind_eq_ok.1 h
    cases hv
    cases h
    rw [ih hvs]

theorem eq_of_mapM_oneOf {names words values : List String}
    (h : words.mapM (ValueKind.oneOf names).read = .ok values) :
    values = words ∧ ∀ v ∈ values, v ∈ names := by
  induction words generalizing values with
  | nil => cases h; simp
  | cons w words ih =>
    rw [List.mapM_cons] at h
    obtain ⟨v, hv, h⟩ := bind_eq_ok.1 h
    obtain ⟨values, hvs, h⟩ := bind_eq_ok.1 h
    cases h
    obtain ⟨rfl, mem⟩ := ih hvs
    unfold ValueKind.read at hv
    dsimp only at hv
    split at hv
    · next hw =>
      cases hv
      exact ⟨rfl, List.forall_mem_cons.2 ⟨hw, mem⟩⟩
    · cases hv

namespace Matches.Found

variable {g : Grammar} {l : List (String × String)} {m : Matches} {name : String}

theorem text (h : m.Found g l) (only : g.TakesOnly name (.value .any)) :
    m.all name = wordsFor name l ∧ (wordsFor name l).length ≤ 1 := by
  induction h with
  | nil => exact ⟨rfl, Nat.zero_le 1⟩
  | @add l m other takes words values _ has reads once ih =>
    rw [all_add, wordsFor_append, wordsFor_map]
    by_cases same : name = other
    · subst same
      obtain rfl := only.eq has
      obtain ⟨none, one⟩ := once _ rfl
      obtain rfl := eq_of_mapM_any reads
      simp [← ih.1, none, one]
    · simpa [same] using ih

theorem parts (h : m.Found g l) {names : List String}
    (only : g.TakesOnly name (.values (.oneOf names))) :
    m.all name = (wordsFor name l).flatMap commaParts ∧ ∀ v ∈ m.all name, v ∈ names := by
  induction h with
  | nil => exact ⟨rfl, nofun⟩
  | @add l m other takes words values _ has reads once ih =>
    rw [all_add, wordsFor_append, wordsFor_map]
    by_cases same : name = other
    · subst same
      obtain rfl := only.eq has
      obtain ⟨rfl, mem⟩ := eq_of_mapM_oneOf reads
      refine ⟨by simp [ih.1], fun v hv => ?_⟩
      simp only [if_true] at hv
      exact (List.mem_append.1 hv).elim (ih.2 v) (mem v)
    · simpa [same] using ih

theorem optional (h : m.Found g l) (only : g.TakesOnly name (.value .any)) :
    wordsFor name l = (m.first? name).toList := by
  obtain ⟨all, one⟩ := h.text only
  rw [first?, all]
  cases hw : wordsFor name l with
  | nil => rfl
  | cons v rest =>
    obtain rfl : rest = [] := by simpa [hw] using one
    rfl

theorem required (h : m.Found g l) (fit : m.Fit g) (only : g.TakesOnly name (.value .any))
    (has : m.has name = true) : ∃ v, wordsFor name l = [v] ∧ m.first? name = some v := by
  have given := h.optional only
  cases hv : m.first? name with
  | some v => exact ⟨v, by rw [given, hv, Option.toList_some], rfl⟩
  | none =>
    obtain ⟨values, hm⟩ := Option.isSome_iff_exists.1 has
    obtain rfl : values = [] := by simpa [first?, all, hm] using hv
    cases only.eq (fit.filled _ (Fit.mem_of_get? hm) rfl)

end Matches.Found

inductive ApiCommand.Spoken (l : List (String × String)) : ApiCommand → Prop
  | login {email password} (he : wordsFor "email" l = [email])
      (hp : wordsFor "password" l = password.toList) : Spoken l (.login email password)
  | list {path} (h : wordsFor "path" l = [path] ∨ wordsFor "path" l = [] ∧ path = "/") :
      Spoken l (.list path)
  | begin {fileId outputDir rename} (hf : wordsFor "file-id" l = [fileId])
      (ho : wordsFor "output-dir" l = [outputDir]) (hr : wordsFor "rename" l = rename.toList) :
      Spoken l (.begin fileId outputDir rename)
  | pause {fileId} (h : wordsFor "file-id" l = [fileId]) : Spoken l (.pause fileId)
  | resume {fileId} (h : wordsFor "file-id" l = [fileId]) : Spoken l (.resume fileId)
  | remove {fileId} (h : wordsFor "file-id" l = [fileId]) (deleteFile : Bool) :
      Spoken l (.remove fileId deleteFile)
  | status {filter} (h : filter.map filterWord = (wordsFor "filter" l).flatMap commaParts) :
      Spoken l (.status filter)

def Verb.ownGrammar (v : Verb) (shared : List Flag) : Grammar :=
  { v.grammar with flags := v.grammar.flags ++ shared }

def argumentNames : List String :=
  ["email", "password", "path", "file-id", "output-dir", "rename", "filter"]

theorem Grammar.TakesOnly.own {v : Verb} {shared : List Flag} {name : String} {takes : Takes}
    (h : v.grammar.TakesOnly name takes) (apart : ∀ f ∈ shared, f.name ∉ argumentNames)
    (argument : name ∈ argumentNames) : (v.ownGrammar shared).TakesOnly name takes where
  flags := by
    intro f hf e
    obtain hf | hf := List.mem_append.1 hf
    · exact h.flags f hf e
    · exact absurd (e ▸ argument) (apart f hf)
  places := h.places

theorem filterOf?_filterWord (f : StatusFilter) : filterOf? (filterWord f) = some f := by
  cases f <;> decide

theorem map_filterWord_filterMap {words : List String}
    (h : ∀ w ∈ words, w ∈ StatusFilter.all.map filterWord) :
    (words.filterMap filterOf?).map filterWord = words := by
  induction words with
  | nil => rfl
  | cons w words ih =>
    obtain ⟨hw, rest⟩ := List.forall_mem_cons.1 h
    obtain ⟨f, -, rfl⟩ := List.mem_map.1 hw
    rw [List.filterMap_cons_some (filterOf?_filterWord f), List.map_cons, ih rest]

theorem Verb.spoken_read (v : Verb) {shared : List Flag} {l : List (String × String)} {m : Matches}
    (apart : ∀ f ∈ shared, f.name ∉ argumentNames) (found : m.Found (v.ownGrammar shared) l)
    (fit : m.Fit (v.ownGrammar shared))
    (required : ∀ name ∈ v.grammar.required, m.has name = true) : (v.read m).Spoken l := by
  have needed {name : String} (only : v.grammar.TakesOnly name (.value .any))
      (argument : name ∈ argumentNames) (needed : name ∈ v.grammar.required) :
      wordsFor name l = [(m.first? name).getD ""] := by
    obtain ⟨x, hw, hx⟩ := found.required fit (only.own apart argument) (required name needed)
    rw [hw, hx, Option.getD_some]
  have optional {name : String} (only : v.grammar.TakesOnly name (.value .any))
      (argument : name ∈ argumentNames) : wordsFor name l = (m.first? name).toList :=
    found.optional (only.own apart argument)
  cases v with
  | login =>
    exact .login (needed ⟨by decide, by decide⟩ (by decide) (by decide))
      (optional ⟨by decide, by decide⟩ (by decide))
  | list =>
    have path : wordsFor "path" l = (m.first? "path").toList :=
      optional ⟨by decide, by decide⟩ (by decide)
    refine .list ?_
    cases hp : m.first? "path" <;> simp [path, hp]
  | begin =>
    exact .begin (needed ⟨by decide, by decide⟩ (by decide) (by decide))
      (needed ⟨by decide, by decide⟩ (by decide) (by decide))
      (optional ⟨by decide, by decide⟩ (by decide))
  | pause => exact .pause (needed ⟨by decide, by decide⟩ (by decide) (by decide))
  | resume => exact .resume (needed ⟨by decide, by decide⟩ (by decide) (by decide))
  | remove => exact .remove (needed ⟨by decide, by decide⟩ (by decide) (by decide)) _
  | status =>
    have only : Verb.status.grammar.TakesOnly "filter"
        (.values (.oneOf (StatusFilter.all.map filterWord))) := ⟨by decide, by decide⟩
    obtain ⟨all, mem⟩ := found.parts (only.own apart (by decide))
    exact .status (by rw [map_filterWord_filterMap mem, all])

def ApiCommand.SaidIn (command : ApiCommand) (shared : List Flag) (words : List String) : Prop :=
  ∃ front rest l o, words = front ++ command.verb.name :: rest ∧
    (command.verb.ownGrammar shared).Gave rest l o ∧ command.Spoken l

theorem Verb.verb_read (v : Verb) (m : Matches) : (v.read m).verb = v := by
  cases v <;> rfl

theorem Commands.saidIn_of_parse {κ : Type} {c : Commands κ} {shared : List Flag}
    {env : Environment} {ws : List String} {p : Parsed κ} {v : Verb}
    (h : c.parse shared env ws = .ok p) (names : c.names p.command = [v.name])
    (grammar : c.grammar p.command = v.grammar)
    (apart : ∀ f ∈ shared, f.name ∉ argumentNames) : (v.read p.inner).SaidIn shared ws := by
  obtain ⟨front, w, rest, l, o, hw, hk, gave, found⟩ := found_of_parse h
  obtain ⟨-, fit, required⟩ := fit_of_parse h
  have own : c.ownGrammar shared p.command = v.ownGrammar shared := by
    rw [ownGrammar, grammar, Verb.ownGrammar]
  have called := List.find?_some hk
  obtain rfl : w = v.name := by simpa [names] using called
  rw [own] at gave found fit
  rw [grammar] at required
  refine ⟨front, rest, l, o, ?_, ?_, v.spoken_read apart found fit required⟩
  · rw [v.verb_read, hw]
  · rwa [v.verb_read]

theorem saidIn_of_parseArguments {env : Environment} {words : List String} {settings : Settings}
    {command : ApiCommand} (h : parseArguments env words = .ok (settings, .api command)) :
    command.SaidIn sharedFlags words := by
  obtain ⟨p, hp, h⟩ := bind_eq_ok.1 h
  cases hk : p.command with
  | api v =>
    rw [hk] at h
    cases h
    exact Commands.saidIn_of_parse hp (by rw [hk]; rfl) (by rw [hk]; rfl) (by decide)
  | shell =>
    rw [hk] at h
    cases h

theorem saidIn_of_parseShellWords {words : List String} {command : ApiCommand}
    (h : parseShellWords words = .ok (.api command)) : command.SaidIn [] words := by
  obtain ⟨p, hp, h⟩ := bind_eq_ok.1 h
  cases hk : p.command with
  | api v =>
    rw [hk] at h
    cases h
    exact Commands.saidIn_of_parse hp (by rw [hk]; rfl) (by rw [hk]; rfl) (by simp)
  | _ =>
    rw [hk] at h
    cases h

theorem saidIn_of_parseLine {line : String} {command : ApiCommand}
    (h : parseLine line = .ok (some (.api command))) :
    ∃ words, words? line = some words ∧ command.SaidIn [] words := by
  unfold parseLine at h
  split at h
  · cases h
  · cases h
  · next words _ hw =>
    cases hs : parseShellWords words with
    | error e =>
      rw [hs] at h
      cases h
    | ok said =>
      rw [hs] at h
      obtain rfl : said = .api command := by simpa [Except.mapError, Except.map] using h
      exact ⟨words, hw, saidIn_of_parseShellWords hs⟩

end DownloadClient.Command
