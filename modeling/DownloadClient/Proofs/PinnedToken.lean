import DownloadClient.Proofs.Services

/-! Services whose caches look at the URL alone. An operation keeps the token that it found when it
last built its client until it finds another URL, and what the other operations do in between is
nothing to it. -/

namespace DownloadClient.Client.Services

open DownloadClient.Api DownloadClient.Session
open Cache (Access BuiltAt History Next exists_builtAt key usableToken)

structure Made where
  services : Services State
  network : Network
  op : Operation
  request : op.Request

namespace Made

def client (m : Made) : Built := ((m.services.refreshed m.op).caches.get m.op).client

def access (m : Made) : Access := ⟨m.services.session, m.client⟩

def outcome [Locator] (m : Made) : Outcome State m.op := m.services.call m.op m.request m.network

def called [Locator] (m : Made) : Called m.op :=
  Client.call m.client.config m.op m.request (some (m.services.budgets.get m.op)) m.network

end Made

def made (s : Services State) (n : Network) : Action → List Made
  | .call op r => [⟨s, n, op, r⟩]
  | _ => []

def calls [Locator] (s : Services State) (n : Network) : List Action → List Made
  | [] => []
  | a :: rest => s.made n a ++ calls (s.act n a).1 (s.act n a).2.network rest

def accesses (op : Operation) (l : List Made) : List Access :=
  (l.filter (·.op = op)).map Made.access

/-- The moments of an operation in a run: the construction of the services, then its calls. -/
def moments [Locator] (session : State) (budgets : PerOperation Duration) (n : Network)
    (actions : List Action) (op : Operation) : List Access :=
  ⟨session, ⟨1, Store.configuration session⟩⟩
    :: accesses op ((of session .urlOnly budgets).calls n actions)

def granted {ε : Type} : (op : Operation) → Except ε op.Response → List Cache.Action
  | .login, .ok r => [.setToken (LoginResponse.token r)]
  | _, _ => []

def locally [Locator] (s : Services State) (n : Network) (op : Operation) :
    Action → List Cache.Action
  | .setBackendUrl url => [.setBackendUrl url]
  | .logout => [.clearToken]
  | .setToken token => [.setToken token]
  | .clearToken => [.clearToken]
  | .call other r =>
    (if other = op then [.getClient] else []) ++ granted other (s.call other r n).result

def history (s : Services State) (op : Operation) (past : List Access) : History :=
  ⟨s.session, s.caches.get op, past⟩

theorem foldl_granted (h : History) (op : Operation) (result : Except Cause op.Response) :
    (granted op (result.mapError (CallError.mk op.name))).foldl History.step h =
      { h with session := stored h.session op result } := by
  cases op <;> cases result <;> rfl

theorem history_act [Locator] (s : Services State) (n : Network) (op : Operation)
    (past : List Access) (a : Action) :
    (s.act n a).1.history op (past ++ accesses op (s.made n a)) =
      (s.locally n op a).foldl History.step (s.history op past) := by
  cases a with
  | setBackendUrl url => simp [made, accesses, locally, history, act, History.step, setBackendUrl]
  | logout => simp [made, accesses, locally, history, act, History.step, logout]
  | setToken token => simp [made, accesses, locally, history, act, History.step]
  | clearToken => simp [made, accesses, locally, history, act, History.step]
  | call other r =>
    rw [locally, List.foldl_append, call, foldl_granted]
    by_cases h : other = op
    · subst h
      simp [made, accesses, history, act, call, finish, History.step, Made.access, Made.client,
        refreshed]
    · simp [made, accesses, history, act, call, finish, refreshed, h,
        PerOperation.get_set_of_ne, Ne.symm h]

theorem exists_history_calls [Locator] {op : Operation} {past : List Access} {s : Services State}
    (hs : (s.history op past).Sound .urlOnly) (n : Network) (actions : List Action) :
    ∃ h : History, h.Sound .urlOnly ∧ h.accesses = past ++ accesses op (s.calls n actions) := by
  induction actions generalizing s n past with
  | nil => exact ⟨_, hs, by simp [history, calls, accesses]⟩
  | cons a rest ih =>
    have kept : ((s.act n a).1.history op (past ++ accesses op (s.made n a))).Sound .urlOnly := by
      rw [history_act]
      exact (s.locally n op a).foldlRecOn _ hs fun _ hs a _ => hs.step a
    obtain ⟨h, sound, eq⟩ := ih kept (s.act n a).2.network
    exact ⟨h, sound, by simp [eq, calls, accesses, List.append_assoc]⟩

theorem exists_history_moments [Locator] (session : State) (budgets : PerOperation Duration)
    (n : Network) (actions : List Action) (op : Operation) :
    ∃ h : History, h.Sound .urlOnly ∧ h.accesses = moments session budgets n actions op := by
  have sound : ((of session .urlOnly budgets).history op
      [⟨session, ⟨1, Store.configuration session⟩⟩]).Sound .urlOnly := by
    have h := History.sound_of .urlOnly session
    simpa [history, of, PerOperation.get_uniform, History.of, Cache.of, Cache.build] using h
  exact exists_history_calls sound n actions

/-- `j` is the last moment up to `k` at which the URL was not that of the moment before. -/
structure RebuiltAt (l : List Access) (j k : Nat) (hk : k < l.length) (hj : j ≤ k) : Prop where
  point : ∀ i, (h : i + 1 = j) → l[i].session.url ≠ l[j].session.url
  since : ∀ i, j ≤ i → (h : i < k) → l[i].session.url = l[i + 1].session.url

theorem key_urlOnly_eq_iff (a b : State) : key .urlOnly a = key .urlOnly b ↔ a.url = b.url := by
  simp [key]

theorem BuiltAt.rebuiltAt {l : List Access} {j k : Nat} {hk : k < l.length} {hj : j ≤ k}
    (chain : l.IsChain (Next .urlOnly)) (b : BuiltAt l j k hk hj) : RebuiltAt l j k hk hj where
  point := by
    rintro i rfl same
    refine b.fresh i (Nat.lt_succ_self i) ?_
    rw [← (chain.getElem i (by omega)).of_eq ((key_urlOnly_eq_iff _ _).2 same),
      b.since (i + 1) (Nat.le_refl _) hj]
  since i hji hik := by
    rw [← key_urlOnly_eq_iff, ← (chain.getElem i (by omega)).serial_eq_iff,
      b.since i hji (by omega), b.since (i + 1) (by omega) (by omega)]

theorem RebuiltAt.url_eq {l : List Access} {j k : Nat} {hk : k < l.length} {hj : j ≤ k}
    (r : RebuiltAt l j k hk hj) (hl : j < l.length) : l[j].session.url = l[k].session.url := by
  induction k with
  | zero =>
    obtain rfl := Nat.le_zero.1 hj
    rfl
  | succ k ih =>
    obtain rfl | lt := Nat.eq_or_lt_of_le hj
    · rfl
    · have before : RebuiltAt l j k (by omega) (by omega) :=
        ⟨r.point, fun i hji hik => r.since i hji (by omega)⟩
      rw [ih before, r.since k (by omega) (Nat.lt_succ_self k)]

theorem eq_of_sessions_eq {l l' : List Access} (chain : l.IsChain (Next .urlOnly))
    (chain' : l'.IsChain (Next .urlOnly)) (first : l.head? = l'.head?)
    (same : l.map (·.session) = l'.map (·.session)) : l = l' := by
  induction l generalizing l' with
  | nil => simp_all [List.map_eq_nil_iff]
  | cons a l ih =>
    obtain ⟨a', l', rfl⟩ : ∃ a' t, l' = a' :: t := by cases l' <;> simp_all
    obtain rfl : a = a' := by simpa using first
    have tails : l.map (·.session) = l'.map (·.session) := by simpa using same
    congr 1
    refine ih chain.tail chain'.tail ?_ tails
    cases l with
    | nil => cases l' <;> simp_all
    | cons b l =>
      obtain ⟨b', l', rfl⟩ : ∃ b' t, l' = b' :: t := by cases l' <;> simp_all
      have session : b.session = b'.session := by simpa using (List.cons.inj tails).1
      have client : b.client = b'.client := by rw [chain.rel, chain'.rel, session]
      cases b
      cases b'
      simp_all

abbrev Answer := (Σ op : Operation, Except CallError op.Response) × List HttpRequest

def Observation.answer? (o : Observation State) : Option Answer := o.result.map (·, o.received)

def Made.answer [Locator] (m : Made) : Answer :=
  (⟨m.op, m.called.result.mapError (CallError.mk m.op.name)⟩, m.called.received)

theorem client_made (s : Services State) (n : Network) (op : Operation) (r : op.Request) :
    s.client op = (Made.mk s n op r).client.config := rfl

theorem answer_call [Locator] (s : Services State) (n : Network) (op : Operation) (r : op.Request) :
    (s.act n (.call op r)).2.answer? = some (Made.mk s n op r).answer := by
  simp only [Observation.answer?, act, call, Option.map_some, Made.answer, Made.called,
    client_made s n op r]

theorem trace_calls [Locator] (s : Services State) (n : Network) (actions : List Action) :
    (s.trace n actions).filterMap Observation.answer? = (s.calls n actions).map Made.answer := by
  induction actions generalizing s n with
  | nil => rfl
  | cons a rest ih =>
    rw [trace, calls, List.map_append, ← ih]
    cases a with
    | call op r => rw [List.filterMap_cons_some (answer_call s n op r)]; rfl
    | _ => rw [List.filterMap_cons_none rfl]; rfl

structure Pinned (l : List Access) : Prop where
  configured : ∀ k (hk : k < l.length), ∃ j, ∃ hj : j ≤ k, RebuiltAt l j k hk hj ∧
    l[k].client.config.baseUrl = l[k].session.url ∧
      l[k].client.config.accessToken = usableToken l[j].session
  same_iff : ∀ k (hk : k + 1 < l.length),
    l[k + 1].client = l[k].client ↔ l[k].session.url = l[k + 1].session.url

theorem Next.client_eq_iff {a b : Access} (h : Next .urlOnly a b) :
    b.client = a.client ↔ a.session.url = b.session.url := by
  rw [← key_urlOnly_eq_iff]
  exact ⟨fun e => h.serial_eq_iff.1 (by rw [e]), h.of_eq⟩

theorem pinned_of_history {h : History} (hs : h.Sound .urlOnly) : Pinned h.accesses where
  configured k hk := by
    obtain ⟨j, hj, b⟩ := exists_builtAt hs.chain hs.first k hk
    have r := BuiltAt.rebuiltAt hs.chain b
    refine ⟨j, hj, r, ?_, ?_⟩
    · rw [b.config, ← r.url_eq (by omega)]
      rfl
    · rw [b.config, Cache.accessToken_configuration]
  same_iff k hk := Next.client_eq_iff (hs.chain.getElem k hk)

theorem caches_call_of_ne [Locator] (m : Made) {op : Operation} (h : op ≠ m.op) :
    m.outcome.services.caches.get op = m.services.caches.get op := by
  change (m.services.refreshed m.op).caches.get op = _
  rw [caches_refreshed, if_neg h]

/-- In every run of services that look at the URL alone, the calls that can be seen are those made
with the clients of the operations' moments, and these have the current URL and the token of the
last rebuild point. A call leaves the clients of the other operations alone: two runs, in whatever
else they differ, give an operation the same clients if it finds the same sessions in both. -/
theorem pinned_of_run [Locator] (session : State) (budgets : PerOperation Duration) (n : Network)
    (actions : List Action) :
    ((of session .urlOnly budgets).trace n actions).filterMap Observation.answer? =
        ((of session .urlOnly budgets).calls n actions).map Made.answer ∧
      (∀ op, Pinned (moments session budgets n actions op)) ∧
      (∀ m ∈ (of session .urlOnly budgets).calls n actions, ∀ op ≠ m.op,
        m.outcome.services.caches.get op = m.services.caches.get op) ∧
      ∀ (budgets' : PerOperation Duration) (n' : Network) (actions' : List Action) (op : Operation),
        (moments session budgets n actions op).map (·.session) =
            (moments session budgets' n' actions' op).map (·.session) →
          moments session budgets n actions op = moments session budgets' n' actions' op := by
  refine ⟨trace_calls _ n actions, fun op => ?_, fun m _ op => caches_call_of_ne m, ?_⟩
  · obtain ⟨h, sound, eq⟩ := exists_history_moments session budgets n actions op
    exact eq ▸ pinned_of_history sound
  · intro budgets' n' actions' op same
    obtain ⟨h, sound, eq⟩ := exists_history_moments session budgets n actions op
    obtain ⟨h', sound', eq'⟩ := exists_history_moments session budgets' n' actions' op
    exact eq_of_sessions_eq (eq ▸ sound.chain) (eq' ▸ sound'.chain) rfl same

-- away and back between two calls is no rebuild point
example [Locator] (n : Network) :
    (moments ⟨"http://a", "one", none⟩ defaultBudgets n
        [.setToken "two", .setBackendUrl "http://b", .call .downloadResume ⟨"f"⟩,
          .setBackendUrl "http://a", .call .downloadPause ⟨"f"⟩] .downloadPause).map
      (·.client.config.accessToken) = [some "one", some "one"] := by rfl

end DownloadClient.Client.Services
