import Mathlib.Data.List.Chain
import DownloadClient.Client.Cache
import DownloadClient.Session.Store

/-! A cache in use. Its session changes between accesses, and each access returns a client: the one
of the access before it where nothing changed that the cache's policy looks at, else a new one. -/

namespace DownloadClient.Client

open DownloadClient.Session DownloadClient.Text

namespace Cache

structure Bound (c : Cache) : Prop where
  url : c.boundUrl = c.client.config.baseUrl
  token : c.boundToken = c.client.config.accessToken

theorem bound_build (policy : StalenessPolicy) (serial : Nat) (config : Configuration) :
    (build policy serial config).Bound := ⟨rfl, rfl⟩

theorem refresh_of_stale {c : Cache} {config : Configuration} (h : c.stale config = true) :
    c.refresh config = build c.policy (c.client.serial + 1) config := by
  simp [refresh, h]

theorem Bound.refresh {c : Cache} (h : c.Bound) (config : Configuration) :
    (c.refresh config).Bound := by
  cases hs : c.stale config with
  | false => rwa [refresh_of_not_stale hs]
  | true =>
    rw [refresh_of_stale hs]
    exact bound_build _ _ _

theorem Bound.stale_eq_false_iff {c : Cache} (h : c.Bound) (config : Configuration) :
    c.stale config = false ↔ c.client.config.baseUrl = config.baseUrl ∧
      (c.policy = .urlOrToken → c.client.config.accessToken = config.accessToken) := by
  simp [stale, urlChanged, tokenChanged, h.url, h.token]

theorem Bound.baseUrl_refresh {c : Cache} (h : c.Bound) (config : Configuration) :
    (c.refresh config).client.config.baseUrl = config.baseUrl := by
  cases hs : c.stale config with
  | false =>
    rw [refresh_of_not_stale hs]
    exact ((h.stale_eq_false_iff config).1 hs).1
  | true => rw [client_refresh_of_stale hs]

theorem Bound.accessToken_refresh {c : Cache} (h : c.Bound) (hp : c.policy = .urlOrToken)
    (config : Configuration) :
    (c.refresh config).client.config.accessToken = config.accessToken := by
  cases hs : c.stale config with
  | false =>
    rw [refresh_of_not_stale hs]
    exact ((h.stale_eq_false_iff config).1 hs).2 hp
  | true => rw [client_refresh_of_stale hs]

theorem Bound.config_refresh {c : Cache} (h : c.Bound) (hp : c.policy = .urlOrToken)
    {config : Configuration} (ht : c.client.config.timeout = config.timeout) :
    (c.refresh config).client.config = config := by
  cases hs : c.stale config with
  | false =>
    obtain ⟨hu, hk⟩ := (h.stale_eq_false_iff config).1 hs
    rw [refresh_of_not_stale hs]
    have hk := hk hp
    cases config
    cases hc : c.client.config
    simp_all
  | true => rw [client_refresh_of_stale hs]

theorem timeout_refresh {c : Cache} {config : Configuration}
    (ht : c.client.config.timeout = config.timeout) :
    (c.refresh config).client.config.timeout = config.timeout := by
  cases hs : c.stale config with
  | false => rwa [refresh_of_not_stale hs]
  | true => rw [client_refresh_of_stale hs]

inductive Action
  | setBackendUrl (url : String)
  | setToken (token : String)
  | clearToken
  | getClient

structure Access where
  session : State
  client : Built

structure History where
  session : State
  cache : Cache
  /-- in order; the first is the construction of the cache -/
  accesses : List Access

namespace History

def of (policy : StalenessPolicy) (session : State) : History where
  session := session
  cache := .of policy (Store.configuration session)
  accesses := [⟨session, (Cache.of policy (Store.configuration session)).client⟩]

def step (h : History) : Action → History
  | .setBackendUrl url => { h with session := Store.setBackendUrl url h.session }
  | .setToken token => { h with session := Store.setToken token h.session }
  | .clearToken => { h with session := Store.clearToken h.session }
  | .getClient =>
    let cache := h.cache.refresh (Store.configuration h.session)
    { h with cache, accesses := h.accesses ++ [⟨h.session, cache.client⟩] }

def run (policy : StalenessPolicy) (session : State) (actions : List Action) : History :=
  actions.foldl step (.of policy session)

end History

def Action.write : Action → State → State
  | .setBackendUrl url, s => Store.setBackendUrl url s
  | .setToken token, s => Store.setToken token s
  | .clearToken, s => Store.clearToken s
  | .getClient, s => s

def asked (session : State) : List Action → List State
  | [] => []
  | .getClient :: rest => session :: asked session rest
  | a :: rest => asked (a.write session) rest

def usableToken (s : State) : Option String := if blank s.token then none else some s.token

def key (policy : StalenessPolicy) (s : State) : String × Option String :=
  match policy with
  | .urlOnly => (s.url, none)
  | .urlOrToken => (s.url, usableToken s)

def changes (policy : StalenessPolicy) : List Access → Nat
  | a :: b :: rest =>
    (if key policy a.session = key policy b.session then 0 else 1) + changes policy (b :: rest)
  | _ => 0

def seen (policy : StalenessPolicy) (config : Configuration) : String × Option String :=
  match policy with
  | .urlOnly => (config.baseUrl, none)
  | .urlOrToken => (config.baseUrl, config.accessToken)

@[simp] theorem accessToken_configuration (s : State) :
    (Store.configuration s).accessToken = usableToken s := by
  change Configuration.normalToken s.token? = usableToken s
  by_cases h : s.token = ""
  · simp [State.token?, usableToken, Configuration.normalToken, blank, h]
  · cases hb : blank s.token <;>
      simp [State.token?, usableToken, Configuration.normalToken, h, hb]

@[simp] theorem seen_configuration (policy : StalenessPolicy) (s : State) :
    seen policy (Store.configuration s) = key policy s := by
  cases policy with
  | urlOnly => rfl
  | urlOrToken => rw [seen, key, accessToken_configuration]; rfl

theorem Bound.stale_eq_false_iff_seen {c : Cache} (h : c.Bound) (config : Configuration) :
    c.stale config = false ↔ seen c.policy c.client.config = seen c.policy config := by
  rw [h.stale_eq_false_iff]
  cases c.policy <;> simp [seen]

def Next (policy : StalenessPolicy) (a b : Access) : Prop :=
  b.client = if key policy a.session = key policy b.session then a.client
    else ⟨a.client.serial + 1, Store.configuration b.session⟩

def Access.Current (policy : StalenessPolicy) (a : Access) : Prop :=
  seen policy a.client.config = key policy a.session

theorem Next.of_eq {policy : StalenessPolicy} {a b : Access} (h : Next policy a b)
    (hk : key policy a.session = key policy b.session) : b.client = a.client := by
  rw [h, if_pos hk]

theorem Next.of_ne {policy : StalenessPolicy} {a b : Access} (h : Next policy a b)
    (hk : key policy a.session ≠ key policy b.session) :
    b.client = ⟨a.client.serial + 1, Store.configuration b.session⟩ := by
  rw [h, if_neg hk]

theorem Next.serial {policy : StalenessPolicy} {a b : Access} (h : Next policy a b) :
    b.client.serial =
      a.client.serial + if key policy a.session = key policy b.session then 0 else 1 := by
  rw [h]
  split <;> rfl

theorem Next.current {policy : StalenessPolicy} {a b : Access} (h : Next policy a b)
    (ha : a.Current policy) : b.Current policy := by
  by_cases hk : key policy a.session = key policy b.session
  · rw [Access.Current, h.of_eq hk, ha, hk]
  · rw [Access.Current, h.of_ne hk, seen_configuration]

def Older (a b : Access) : Prop := a.client = b.client ∨ a.client.serial < b.client.serial

theorem Next.older {policy : StalenessPolicy} {a b : Access} (h : Next policy a b) :
    Older a b := by
  by_cases hk : key policy a.session = key policy b.session
  · exact .inl (h.of_eq hk).symm
  · exact .inr (by simp [h.of_ne hk])

theorem Older.trans {a b c : Access} (hab : Older a b) (hbc : Older b c) : Older a c := by
  obtain hab | hab := hab
  · obtain hbc | hbc := hbc
    · exact .inl (hab.trans hbc)
    · exact .inr (hab ▸ hbc)
  · obtain hbc | hbc := hbc
    · exact .inr (hbc ▸ hab)
    · exact .inr (hab.trans hbc)

instance : Trans Older Older Older := ⟨Older.trans⟩

namespace History

/-- What every step keeps: the accesses follow one another, and the last of them returned the
client that the cache holds. -/
structure Sound (policy : StalenessPolicy) (h : History) : Prop where
  policy_eq : h.cache.policy = policy
  bound : h.cache.Bound
  first : ∀ a ∈ h.accesses.head?, a.client = ⟨1, Store.configuration a.session⟩
  chain : h.accesses.IsChain (Next policy)
  last : ∃ a ∈ h.accesses.getLast?, a.client = h.cache.client ∧ a.Current policy

theorem sound_of (policy : StalenessPolicy) (session : State) :
    (of policy session).Sound policy where
  policy_eq := rfl
  bound := bound_build _ _ _
  first := by simp [of, Cache.of, build]
  chain := .singleton _
  last := ⟨_, rfl, rfl, seen_configuration policy session⟩

theorem Sound.next {policy : StalenessPolicy} {h : History} (hs : h.Sound policy) {a : Access}
    (ha : a.client = h.cache.client) (hc : a.Current policy) :
    Next policy a ⟨h.session, (h.cache.refresh (Store.configuration h.session)).client⟩ := by
  have iff := hs.bound.stale_eq_false_iff_seen (Store.configuration h.session)
  rw [hs.policy_eq, ← ha, hc, seen_configuration] at iff
  cases stale : h.cache.stale (Store.configuration h.session) with
  | false => rw [Next, if_pos (iff.1 stale), refresh_of_not_stale stale, ha]
  | true =>
    have ne : key policy a.session ≠ key policy h.session := fun e => by simp [iff.2 e] at stale
    rw [Next, if_neg ne, client_refresh_of_stale stale, ha]

theorem Sound.step {policy : StalenessPolicy} {h : History} (hs : h.Sound policy) (a : Action) :
    (h.step a).Sound policy := by
  cases a with
  | setBackendUrl url => exact ⟨hs.policy_eq, hs.bound, hs.first, hs.chain, hs.last⟩
  | setToken token => exact ⟨hs.policy_eq, hs.bound, hs.first, hs.chain, hs.last⟩
  | clearToken => exact ⟨hs.policy_eq, hs.bound, hs.first, hs.chain, hs.last⟩
  | getClient =>
    obtain ⟨a, ha, hc, hcur⟩ := hs.last
    have hn := hs.next hc hcur
    refine ⟨by simp [History.step, hs.policy_eq], hs.bound.refresh _, ?_, ?_, ?_⟩
    · intro b hb
      have ne : h.accesses ≠ [] := fun e => by simp [e] at ha
      exact hs.first b (by simpa [History.step, List.head?_append_of_ne_nil _ ne] using hb)
    · refine hs.chain.append (.singleton _) ?_
      intro x hx y hy
      simp only [List.head?_cons, Option.mem_def, Option.some.injEq] at hy
      rw [Option.mem_unique hx ha, ← hy]
      exact hn
    · exact ⟨_, by simp [History.step], rfl, hn.current hcur⟩

theorem run_sound (policy : StalenessPolicy) (session : State) (actions : List Action) :
    (run policy session actions).Sound policy := by
  have go (h : History) (hs : h.Sound policy) : (actions.foldl History.step h).Sound policy := by
    induction actions generalizing h with
    | nil => exact hs
    | cons a actions ih => exact ih _ (hs.step a)
  exact go _ (sound_of policy session)

theorem sessions_run (policy : StalenessPolicy) (session : State) (actions : List Action) :
    (run policy session actions).accesses.map (·.session) = session :: asked session actions := by
  have go (h : History) : (actions.foldl History.step h).accesses.map (·.session) =
      h.accesses.map (·.session) ++ asked h.session actions := by
    induction actions generalizing h with
    | nil => simp [asked]
    | cons a actions ih =>
      rw [List.foldl_cons, ih]
      cases a <;> simp [History.step, asked, Action.write]
  exact go _

end History

section Chain

variable {policy : StalenessPolicy} {l : List Access}

theorem Next.serial_eq_iff {a b : Access} (h : Next policy a b) :
    b.client.serial = a.client.serial ↔ key policy a.session = key policy b.session := by
  rw [h.serial]
  split <;> simp_all

theorem serial_getLast_of_chain {a : Access} (h : (a :: l).IsChain (Next policy)) :
    ((a :: l).getLast (by simp)).client.serial = a.client.serial + changes policy (a :: l) := by
  induction l generalizing a with
  | nil => rfl
  | cons b l ih =>
    rw [List.getLast_cons (by simp), ih h.tail, h.rel.serial, changes, Nat.add_assoc]

theorem older_of_chain (h : l.IsChain (Next policy)) {i j : Nat} (hij : i < j)
    (hj : j < l.length) : Older l[i] l[j] := by
  have hp : l.Pairwise Older := (h.imp fun _ _ => Next.older).pairwise
  exact List.pairwise_iff_getElem.1 hp i j (by omega) hj hij

/-- The access at `j` built the client that the one at `k` returned: from `j` on it is the same
client, before `j` another one, and it has the configuration that the session then had. -/
structure BuiltAt (l : List Access) (j k : Nat) (hk : k < l.length) (hj : j ≤ k) : Prop where
  config : l[k].client.config = Store.configuration l[j].session
  since : ∀ i, j ≤ i → (hi : i ≤ k) → l[i].client = l[k].client
  fresh : ∀ i, (hi : i < j) → l[i].client.serial ≠ l[k].client.serial

theorem exists_builtAt (h : l.IsChain (Next policy))
    (first : ∀ a ∈ l.head?, a.client = ⟨1, Store.configuration a.session⟩) (k : Nat)
    (hk : k < l.length) : ∃ j, ∃ hj : j ≤ k, BuiltAt l j k hk hj := by
  induction k with
  | zero =>
    refine ⟨0, Nat.le_refl 0, ?_, ?_, ?_⟩
    · rw [first l[0] (by simp [List.head?_eq_getElem?, hk])]
    · intro i _ hi
      simp [Nat.le_zero.1 hi]
    · omega
  | succ k ih =>
    have hn := h.getElem k hk
    by_cases hkey : key policy l[k].session = key policy l[k + 1].session
    -- with the same key the client is still the one of the access before; else it is built here
    · obtain ⟨j, hj, b⟩ := ih (by omega)
      have same := hn.of_eq hkey
      refine ⟨j, by omega, by rw [same, b.config], ?_, fun i hi => by rw [same]; exact b.fresh i hi⟩
      intro i hji hik
      obtain rfl | hik := Nat.eq_or_lt_of_le hik
      · rfl
      · rw [same, b.since i hji (by omega)]
    · refine ⟨k + 1, Nat.le_refl _, by rw [hn.of_ne hkey], ?_, ?_⟩
      · intro i hji hik
        simp [Nat.le_antisymm hik hji]
      · intro i hi
        have hs : l[k + 1].client.serial = l[k].client.serial + 1 := by rw [hn.of_ne hkey]
        obtain rfl | hik := Nat.eq_or_lt_of_le (Nat.lt_succ_iff.1 hi)
        · omega
        · obtain e | lt := older_of_chain h hik (by omega)
          · rw [e]; omega
          · omega

theorem History.Sound.builds_eq {h : History} (hs : h.Sound policy) :
    h.cache.builds = 1 + changes policy h.accesses := by
  obtain ⟨last, hlast, hc, -⟩ := hs.last
  cases hl : h.accesses with
  | nil => simp [hl] at hlast
  | cons a l =>
    have hfirst : a.client.serial = 1 := by rw [hs.first a (by simp [hl])]
    have hchain := serial_getLast_of_chain (hl ▸ hs.chain)
    have hlast : (a :: l).getLast (by simp) = last := by
      simpa [hl, List.getLast?_eq_some_getLast] using hlast
    rw [builds, ← hc, ← hlast, hchain, hfirst]

end Chain

structure History.Lawful (policy : StalenessPolicy) (h : History) : Prop where
  same_iff : ∀ i (hi : i + 1 < h.accesses.length),
    h.accesses[i + 1].client.serial = h.accesses[i].client.serial ↔
      key policy h.accesses[i].session = key policy h.accesses[i + 1].session
  builds_eq : h.cache.builds = 1 + changes policy h.accesses
  not_again : ∀ i j k (hij : i < j) (hjk : j < k) (hk : k < h.accesses.length),
    h.accesses[i].client.serial ≠ h.accesses[j].client.serial →
      h.accesses[i].client.serial ≠ h.accesses[k].client.serial
  built_at : ∀ k (hk : k < h.accesses.length), ∃ j, ∃ hj : j ≤ k, BuiltAt h.accesses j k hk hj
  url_current : ∀ a ∈ h.accesses, a.client.config.baseUrl = a.session.url
  token_current : policy = .urlOrToken →
    ∀ a ∈ h.accesses, a.client.config.accessToken = usableToken a.session

/-- The accesses of a run are its construction and the requests for a client, each in the session
that the writes before it have left, and the clients that they return obey the laws. -/
theorem run_lawful (policy : StalenessPolicy) (session : State) (actions : List Action) :
    (History.run policy session actions).accesses.map (·.session) =
        session :: asked session actions ∧
      (History.run policy session actions).Lawful policy := by
  refine ⟨History.sessions_run policy session actions, ?_⟩
  have hs := History.run_sound policy session actions
  generalize History.run policy session actions = h at hs
  have current : ∀ a ∈ h.accesses, a.Current policy := by
    refine hs.chain.induction _ _ (fun _ _ => Next.current) fun ne => ?_
    rw [Access.Current, hs.first _ (List.head_mem_head? ne), seen_configuration]
  constructor
  · intro i hi
    exact (hs.chain.getElem i hi).serial_eq_iff
  · exact hs.builds_eq
  · intro i j k hij hjk hk hne
    obtain e | lt := older_of_chain hs.chain hij (by omega)
    · simp [e] at hne
    · obtain e | lt' := older_of_chain hs.chain hjk hk
      · rw [← e]; omega
      · omega
  · exact exists_builtAt hs.chain hs.first
  · intro a ha
    have := current a ha
    cases policy <;> simp_all [Access.Current, seen, key]
  · rintro rfl a ha
    have := current a ha
    simp_all [Access.Current, seen, key]

end Cache
end DownloadClient.Client
