import Mathlib.Data.List.Basic
import DownloadClient.Proofs.Cache
import DownloadClient.Proofs.InFlight

/-! A cache shared by many callers. A call for its client reads the session first, the URL and then
the token, and asks the cache later; in between others ask and write, in any order. A call that has
read long ago may thus put an old client back into the cache, but it is the client that it asked
for, and the next call puts it right. -/

namespace DownloadClient.Client

open DownloadClient.Session

inductive Ask
  | begun
  | located (url : String)
  | informed (config : Configuration)
  | served (config : Configuration) (client : Built)

structure SharedCache where
  session : State
  cache : Cache
  asks : List Ask

namespace SharedCache

inductive Event
  | write (w : Write)
  | ask
  | proceed (i : Nat)

def of (policy : StalenessPolicy) (session : State) : SharedCache :=
  ⟨session, .of policy (Store.configuration session), []⟩

/-- URL and token are read each on its own; the cache compares and builds in one step. -/
def proceed (s : SharedCache) (i : Nat) : Ask → SharedCache
  | .begun => { s with asks := s.asks.set i (.located (Store.backendUrl s.session)) }
  | .located url =>
    let config := Configuration.of url (Store.accessToken s.session)
      (Store.requestTimeout s.session)
    { s with asks := s.asks.set i (.informed config) }
  | .informed config =>
    let cache := s.cache.refresh config
    { s with cache, asks := s.asks.set i (.served config cache.client) }
  | .served _ _ => s

def step (s : SharedCache) : Event → SharedCache
  | .write w => { s with session := w.apply s.session }
  | .ask => { s with asks := s.asks ++ [.begun] }
  | .proceed i =>
    match s.asks[i]? with
    | none => s
    | some a => s.proceed i a

def run (policy : StalenessPolicy) (session : State) (events : List Event) : SharedCache :=
  events.foldl step (.of policy session)

inductive Advances (s : SharedCache) : Ask → Ask → Prop
  | locate : Advances s .begun (.located s.session.url)
  | inform (url : String) : Advances s (.located url)
      (.informed (.of url (Store.accessToken s.session) (Store.requestTimeout s.session)))
  | serve (config : Configuration) :
      Advances s (.informed config) (.served config (s.cache.refresh config).client)

variable {s : SharedCache} {policy : StalenessPolicy} {session : State}

theorem asks_proceed {i j : Nat} {a a' : Ask} (h : s.asks[i]? = some a)
    (h' : (s.proceed i a).asks[j]? = some a') :
    s.asks[j]? = some a' ∨ s.asks[j]? = some a ∧ s.Advances a a' := by
  cases a with
  | served config client => exact .inl h'
  | _ =>
    simp only [proceed, List.getElem?_set] at h'
    split at h'
    · next e =>
      subst e
      split at h'
      · cases h'
        exact .inr ⟨h, by constructor⟩
      · cases h'
    · exact .inl h'

theorem asks_step {e : Event} {i : Nat} {a : Ask} (h : (s.step e).asks[i]? = some a) :
    s.asks[i]? = some a ∨ a = .begun ∨ ∃ b, s.asks[i]? = some b ∧ s.Advances b a := by
  cases e with
  | write w => exact .inl h
  | ask =>
    simp only [step, List.getElem?_append] at h
    split at h
    · exact .inl h
    · exact .inr (.inl (List.mem_singleton.1 (List.mem_of_getElem? h)))
  | proceed j =>
    rw [step] at h
    split at h
    · exact .inl h
    · next b hb =>
      obtain h | ⟨hi, h⟩ := asks_proceed hb h
      · exact .inl h
      · exact .inr (.inr ⟨b, hi, h⟩)

theorem length_asks_step (s : SharedCache) (e : Event) :
    s.asks.length ≤ (s.step e).asks.length := by
  cases e with
  | write w => exact Nat.le_refl _
  | ask => simp [step]
  | proceed i =>
    rw [step]
    split
    · exact Nat.le_refl _
    · next a ha => cases a <;> simp [proceed]

structure Sound (policy : StalenessPolicy) (s : SharedCache) : Prop where
  policy_eq : s.cache.policy = policy
  bound : s.cache.Bound

theorem Sound.step (h : s.Sound policy) (e : Event) : (s.step e).Sound policy := by
  cases e with
  | write w => exact ⟨h.policy_eq, h.bound⟩
  | ask => exact ⟨h.policy_eq, h.bound⟩
  | proceed i =>
    rw [SharedCache.step]
    split
    · exact h
    · next a ha =>
      cases a with
      | informed config => exact ⟨by simp [proceed, h.policy_eq], h.bound.refresh config⟩
      | _ => exact ⟨h.policy_eq, h.bound⟩

theorem session_step {e : Event} (quiet : ∀ w, e ≠ .write w) :
    (s.step e).session = s.session := by
  cases e with
  | write w => exact absurd rfl (quiet w)
  | ask => rfl
  | proceed i =>
    rw [step]
    split
    · rfl
    · next a ha => cases a <;> rfl

theorem run_concat (events : List Event) (e : Event) :
    run policy session (events ++ [e]) = (run policy session events).step e := by
  simp [run]

theorem run_sound (events : List Event) : (run policy session events).Sound policy := by
  induction events using List.reverseRecOn with
  | nil => exact ⟨rfl, Cache.bound_build _ _ _⟩
  | append_singleton events e ih =>
    rw [run_concat]
    exact ih.step e

theorem length_asks_run (before after : List Event) :
    (run policy session before).asks.length ≤
      (run policy session (before ++ after)).asks.length := by
  induction after using List.reverseRecOn with
  | nil => simp
  | append_singleton after e ih =>
    rw [← List.append_assoc, run_concat]
    exact ih.trans (length_asks_step _ e)

theorem session_run (before : List Event) {after : List Event}
    (quiet : ∀ e ∈ after, ∀ w, e ≠ .write w) :
    (run policy session (before ++ after)).session = (run policy session before).session := by
  induction after using List.reverseRecOn with
  | nil => simp
  | append_singleton after e ih =>
    rw [← List.append_assoc, run_concat, session_step (quiet e (by simp))]
    exact ih fun e' he => quiet e' (by simp [he])

section Moments

variable (policy session) (events : List Event) (i : Nat)

structure ReadsUrl (url : String) (k : Nat) : Prop where
  within : k ≤ events.length
  ask : (run policy session (events.take k)).asks[i]? = some .begun
  current : (run policy session (events.take k)).session.url = url

/-- At this moment the call had read the URL, and this was the token, a blank one being none. -/
structure ReadsToken (url : String) (token : Option String) (k : Nat) : Prop where
  within : k ≤ events.length
  ask : (run policy session (events.take k)).asks[i]? = some (.located url)
  current : Cache.usableToken (run policy session (events.take k)).session = token

structure HasRead (config : Configuration) : Prop where
  url : ∃ k, ReadsUrl policy session events i config.baseUrl k
  token : ∃ k, ReadsToken policy session events i config.baseUrl config.accessToken k

structure Serves (config : Configuration) (client : Built) : Prop where
  read : HasRead policy session events i config
  baseUrl : client.config.baseUrl = config.baseUrl
  accessToken : policy = .urlOrToken → client.config.accessToken = config.accessToken

def Knows : Ask → Prop
  | .begun => True
  | .located url => ∃ k, ReadsUrl policy session events i url k
  | .informed config => HasRead policy session events i config
  | .served config client => Serves policy session events i config client

end Moments

variable {events : List Event} {i : Nat} {url : String} {token : Option String} {k : Nat}
  {config : Configuration}

theorem ReadsUrl.concat (h : ReadsUrl policy session events i url k) (e : Event) :
    ReadsUrl policy session (events ++ [e]) i url k where
  within := by simpa using Nat.le_succ_of_le h.within
  ask := by rw [List.take_append_of_le_length h.within, h.ask]
  current := by rw [List.take_append_of_le_length h.within, h.current]

theorem ReadsToken.concat (h : ReadsToken policy session events i url token k) (e : Event) :
    ReadsToken policy session (events ++ [e]) i url token k where
  within := by simpa using Nat.le_succ_of_le h.within
  ask := by rw [List.take_append_of_le_length h.within, h.ask]
  current := by rw [List.take_append_of_le_length h.within, h.current]

theorem HasRead.concat (h : HasRead policy session events i config) (e : Event) :
    HasRead policy session (events ++ [e]) i config where
  url := h.url.imp fun _ hk => hk.concat e
  token := h.token.imp fun _ hk => hk.concat e

theorem Knows.concat {a : Ask} (h : Knows policy session events i a) (e : Event) :
    Knows policy session (events ++ [e]) i a := by
  cases a with
  | begun => trivial
  | located url => exact Exists.imp (fun _ hk => ReadsUrl.concat hk e) h
  | informed config => exact HasRead.concat h e
  | served config client => exact ⟨h.read.concat e, h.baseUrl, h.accessToken⟩

theorem Knows.advance {a b : Ask} (h : Knows policy session events i a)
    (ha : (run policy session events).asks[i]? = some a)
    (advances : (run policy session events).Advances a b) : Knows policy session events i b := by
  cases advances with
  | locate => exact ⟨events.length, Nat.le_refl _, by simpa using ha, by simp⟩
  | inform url =>
    refine ⟨h, events.length, Nat.le_refl _, ?_, ?_⟩
    · rw [List.take_length]
      exact ha
    · rw [List.take_length]
      exact (Cache.accessToken_configuration _).symm
  | serve config =>
    have sound : (run policy session events).Sound policy := run_sound events
    exact ⟨h, sound.bound.baseUrl_refresh config,
      fun hp => sound.bound.accessToken_refresh (sound.policy_eq.trans hp) config⟩

theorem knows_of_run (events : List Event) {i : Nat} {a : Ask}
    (h : (run policy session events).asks[i]? = some a) : Knows policy session events i a := by
  induction events using List.reverseRecOn generalizing i a with
  | nil => cases h
  | append_singleton events e ih =>
    rw [run_concat] at h
    -- The session that a step reads is that of the run so far, which is the last of its moments.
    obtain h | rfl | ⟨b, hb, advances⟩ := asks_step h
    · exact (ih h).concat e
    · trivial
    · exact ((ih hb).advance hb advances).concat e

section Late

variable {before after : List Event} (late : (run policy session before).asks.length ≤ i)
include late

theorem length_le_of_ask {a : Ask} {k : Nat}
    (h : (run policy session ((before ++ after).take k)).asks[i]? = some a) :
    before.length ≤ k := by
  by_contra hk
  -- Had the call begun before that, it would be among the calls of that moment.
  rw [List.take_append_of_le_length (by omega)] at h
  obtain ⟨hi, -⟩ := List.getElem?_eq_some_iff.1 h
  have grows : (run policy session (before.take k)).asks.length ≤
      (run policy session (before.take k ++ before.drop k)).asks.length := length_asks_run _ _
  rw [List.take_append_drop] at grows
  omega

variable (quiet : ∀ e ∈ after, ∀ w, e ≠ .write w)
include quiet

theorem session_of_ask {a : Ask} {k : Nat}
    (h : (run policy session ((before ++ after).take k)).asks[i]? = some a) :
    (run policy session ((before ++ after).take k)).session =
      (run policy session (before ++ after)).session := by
  have hk := length_le_of_ask late h
  rw [List.take_append, List.take_of_length_le hk, session_run before quiet]
  exact session_run before fun e he => quiet e (List.mem_of_mem_take he)

theorem HasRead.final (h : HasRead policy session (before ++ after) i config) :
    config.baseUrl = (run policy session (before ++ after)).session.url ∧
      config.accessToken = Cache.usableToken (run policy session (before ++ after)).session := by
  obtain ⟨⟨k, hu⟩, k', ht⟩ := h
  rw [← hu.current, ← ht.current, session_of_ask late quiet hu.ask,
    session_of_ask late quiet ht.ask]
  exact ⟨rfl, rfl⟩

end Late

theorem asks_put {i : Nat} {a b : Ask} (h : s.asks[i]? = some a) :
    (s.asks.set i b)[i]? = some b := by
  obtain ⟨hi, -⟩ := List.getElem?_eq_some_iff.1 h
  simp [hi]

theorem step_proceed {i : Nat} {a : Ask} (h : s.asks[i]? = some a) :
    s.step (.proceed i) = s.proceed i a := by
  rw [step, h]

theorem proceed_twice {i : Nat} (h : s.asks[i]? = some .begun) :
    (s.step (.proceed i)).step (.proceed i) =
      { s with asks := s.asks.set i (.informed (Store.configuration s.session)) } := by
  rw [step_proceed h, step_proceed (asks_put h)]
  simp only [proceed, List.set_set]
  rfl

theorem served_of_informed {i : Nat} {config : Configuration}
    (h : s.asks[i]? = some (.informed config)) :
    ∃ client, (s.step (.proceed i)).asks[i]? = some (.served config client) :=
  ⟨_, by rw [step_proceed h]; exact asks_put h⟩

theorem step_proceed_of_served {i : Nat} {config : Configuration} {client : Built}
    (h : s.asks[i]? = some (.served config client)) : s.step (.proceed i) = s := by
  rw [step_proceed h, proceed]

theorem served_of_proceed {i : Nat} (h : i < s.asks.length) : ∃ config client,
    (((s.step (.proceed i)).step (.proceed i)).step (.proceed i)).asks[i]? =
      some (.served config client) := by
  have ask := List.getElem?_eq_getElem h
  cases ha : s.asks[i] with
  | begun =>
    rw [ha] at ask
    rw [proceed_twice ask]
    exact ⟨_, served_of_informed (asks_put ask)⟩
  | located url =>
    rw [ha] at ask
    rw [step_proceed ask]
    obtain ⟨client, hc⟩ := served_of_informed (s := s.proceed i (.located url)) (asks_put ask)
    exact ⟨_, client, by rw [step_proceed_of_served hc, hc]⟩
  | informed config =>
    rw [ha] at ask
    obtain ⟨client, hc⟩ := served_of_informed ask
    exact ⟨_, client, by rw [step_proceed_of_served hc, step_proceed_of_served hc, hc]⟩
  | served config client =>
    rw [ha] at ask
    exact ⟨config, client, by simp only [step_proceed_of_served ask, ask]⟩

/-- Calls and writes in any order: a cache compares with what its client was built with; a call
returns a client of what it has read while it was under way; if it begins after the last write, that
is what the session holds in the end. -/
theorem served_of_run (policy : StalenessPolicy) (session : State) (events : List Event) :
    let t := run policy session events
    t.cache.Bound ∧
    (∀ i config client, t.asks[i]? = some (.served config client) →
      Serves policy session events i config client) ∧
    (∀ before after, events = before ++ after → (∀ e ∈ after, ∀ w, e ≠ .write w) →
      ∀ i config client, (run policy session before).asks.length ≤ i →
        t.asks[i]? = some (.served config client) →
          client.config.baseUrl = t.session.url ∧
          (policy = .urlOrToken → client.config.accessToken = Cache.usableToken t.session)) ∧
    ∀ i, i < t.asks.length → ∃ config client,
      (run policy session (events ++ List.replicate 3 (.proceed i))).asks[i]? =
        some (.served config client) := by
  intro t
  have serves : ∀ i config client, t.asks[i]? = some (.served config client) →
      Serves policy session events i config client := fun i config client h => knows_of_run events h
  refine ⟨(run_sound events).bound, serves, ?_, ?_⟩
  · rintro before after rfl quiet i config client late h
    have hs := serves i config client h
    obtain ⟨url, token⟩ := hs.read.final late quiet
    exact ⟨hs.baseUrl.trans url, fun hp => (hs.accessToken hp).trans token⟩
  · intro i hi
    obtain ⟨config, client, h⟩ := served_of_proceed hi
    refine ⟨config, client, ?_⟩
    rw [run, List.foldl_append]
    exact h

theorem late_ask_served :
    let events : List Event := [.ask, .proceed 0, .proceed 0, .write (.url "b"), .ask, .proceed 1,
      .proceed 1, .proceed 1, .proceed 0]
    let t := run .urlOrToken (.of "a" none none) events
    t.session.url = "b" ∧ t.cache.boundUrl = "a" ∧ ∃ config client,
      t.asks[0]? = some (.served config client) ∧
        Serves .urlOrToken (.of "a" none none) events 0 config client := by
  intro events t
  exact ⟨rfl, rfl, _, _, rfl, (served_of_run .urlOrToken (.of "a" none none) events).2.1 0 _ _ rfl⟩

end SharedCache
end DownloadClient.Client
