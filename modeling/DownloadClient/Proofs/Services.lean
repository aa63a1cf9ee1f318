import DownloadClient.Client.Services
import DownloadClient.Proofs.Cache

/-! Services in use, next to services that have no caches and build a client for each call. Under
the policy that looks at URL and token, nobody can tell the two apart. -/

namespace DownloadClient.Client

open DownloadClient.Api DownloadClient.Session

class FixedTimeout (σ : Type) [Store σ] : Prop where
  setBackendUrl (url : String) (s : σ) :
    Store.requestTimeout (Store.setBackendUrl url s) = Store.requestTimeout s
  setToken (token : String) (s : σ) :
    Store.requestTimeout (Store.setToken token s) = Store.requestTimeout s
  clearToken (s : σ) : Store.requestTimeout (Store.clearToken s) = Store.requestTimeout s

instance : FixedTimeout State where
  setBackendUrl _ _ := rfl
  setToken _ _ := rfl
  clearToken _ := rfl

instance : FixedTimeout Recorder where
  setBackendUrl _ _ := rfl
  setToken _ _ := rfl
  clearToken _ := rfl

namespace Services

inductive Action
  | setBackendUrl (url : String)
  | logout
  | setToken (token : String)
  | clearToken
  | call (op : Operation) (r : op.Request)

/-- What can be seen of an action: how a call ended, the requests that were received, the replies
that are left, and the session. -/
structure Observation (σ : Type) where
  result : Option (Σ op : Operation, Except CallError op.Response)
  received : List HttpRequest
  network : Network
  session : σ

def Observation.quiet {σ : Type} (n : Network) (session : σ) : Observation σ :=
  ⟨none, [], n, session⟩

variable {σ : Type} [Store σ]

def act [Locator] (s : Services σ) (n : Network) : Action → Services σ × Observation σ
  | .setBackendUrl url => (s.setBackendUrl url, .quiet n (s.setBackendUrl url).session)
  | .logout => (s.logout, .quiet n s.logout.session)
  | .setToken token =>
    let session := Store.setToken token s.session
    ({ s with session }, .quiet n session)
  | .clearToken =>
    let session := Store.clearToken s.session
    ({ s with session }, .quiet n session)
  | .call op r =>
    let x := s.call op r n
    (x.services, ⟨some ⟨op, x.result⟩, x.received, x.network, x.services.session⟩)

def trace [Locator] (s : Services σ) (n : Network) : List Action → List (Observation σ)
  | [] => []
  | a :: rest => (s.act n a).2 :: trace (s.act n a).1 (s.act n a).2.network rest

end Services

structure Uncached (σ : Type) where
  session : σ
  budgets : PerOperation Duration

namespace Uncached

open Services

variable {σ : Type} [Store σ]

def act [Locator] (s : Uncached σ) (n : Network) : Action → Uncached σ × Observation σ
  | .setBackendUrl url =>
    let session := Store.setBackendUrl url s.session
    ({ s with session }, .quiet n session)
  | .logout =>
    let session := Store.clearToken s.session
    ({ s with session }, .quiet n session)
  | .setToken token =>
    let session := Store.setToken token s.session
    ({ s with session }, .quiet n session)
  | .clearToken =>
    let session := Store.clearToken s.session
    ({ s with session }, .quiet n session)
  | .call op r =>
    let x := Client.call (Store.configuration s.session) op r (some (s.budgets.get op)) n
    let session := stored s.session op x.result
    ({ s with session },
      ⟨some ⟨op, x.result.mapError (CallError.mk op.name)⟩, x.received, x.network, session⟩)

def trace [Locator] (s : Uncached σ) (n : Network) : List Action → List (Observation σ)
  | [] => []
  | a :: rest => (s.act n a).2 :: trace (s.act n a).1 (s.act n a).2.network rest

end Uncached

namespace Services

variable {σ : Type} [Store σ]

/-- What every action keeps: each operation's cache compares with what its client was built with,
and no client has another timeout than the session. -/
structure Sound (policy : StalenessPolicy) (s : Services σ) : Prop where
  policy_eq : ∀ op, (s.caches.get op).policy = policy
  bound : ∀ op, (s.caches.get op).Bound
  timeout : ∀ op, (s.caches.get op).client.config.timeout = Store.requestTimeout s.session

theorem sound_of (session : σ) (policy : StalenessPolicy) (budgets : PerOperation Duration) :
    (of session policy budgets).Sound policy where
  policy_eq op := by rw [of, PerOperation.get_uniform]; rfl
  bound op := by rw [of, PerOperation.get_uniform]; exact Cache.bound_build _ _ _
  timeout op := by rw [of, PerOperation.get_uniform]; rfl

theorem caches_refreshed (s : Services σ) (op other : Operation) :
    (s.refreshed op).caches.get other =
      if other = op then (s.caches.get op).refresh (Store.configuration s.session)
      else s.caches.get other :=
  PerOperation.get_set _ _ _ _

theorem Sound.refreshed {policy : StalenessPolicy} {s : Services σ} (hs : s.Sound policy)
    (op : Operation) : (s.refreshed op).Sound policy where
  policy_eq other := by
    rw [caches_refreshed]
    split <;> simp [hs.policy_eq]
  bound other := by
    rw [caches_refreshed]
    split
    · exact (hs.bound op).refresh _
    · exact hs.bound other
  timeout other := by
    rw [caches_refreshed]
    split
    · exact Cache.timeout_refresh (hs.timeout op)
    · exact hs.timeout other

theorem Sound.withSession {policy : StalenessPolicy} {s : Services σ} (hs : s.Sound policy)
    {session : σ} (h : Store.requestTimeout session = Store.requestTimeout s.session) :
    Sound policy { s with session } where
  policy_eq := hs.policy_eq
  bound := hs.bound
  timeout op := (hs.timeout op).trans h.symm

theorem requestTimeout_stored [FixedTimeout σ] (session : σ) (op : Operation)
    (result : Except Cause op.Response) :
    Store.requestTimeout (stored session op result) = Store.requestTimeout session := by
  cases op <;> cases result <;> first | rfl | exact FixedTimeout.setToken _ _

theorem Sound.finish [FixedTimeout σ] {policy : StalenessPolicy} {s : Services σ}
    (hs : s.Sound policy) (op : Operation) (result : Except Cause op.Response) :
    (s.finish op result).Sound policy :=
  hs.withSession (requestTimeout_stored _ _ _)

theorem Sound.act [Locator] [FixedTimeout σ] {policy : StalenessPolicy} {s : Services σ}
    (hs : s.Sound policy) (n : Network) (a : Action) : (s.act n a).1.Sound policy := by
  cases a with
  | setBackendUrl url => exact hs.withSession (FixedTimeout.setBackendUrl _ _)
  | logout => exact hs.withSession (FixedTimeout.clearToken _)
  | setToken token => exact hs.withSession (FixedTimeout.setToken _ _)
  | clearToken => exact hs.withSession (FixedTimeout.clearToken _)
  | call op r => exact (hs.refreshed op).finish op _

theorem Sound.client_eq {s : Services σ} (hs : s.Sound .urlOrToken) (op : Operation) :
    s.client op = Store.configuration s.session := by
  rw [client, caches_refreshed, if_pos rfl]
  exact (hs.bound op).config_refresh (hs.policy_eq op) (hs.timeout op)

def uncached (s : Services σ) : Uncached σ := ⟨s.session, s.budgets⟩

theorem Sound.act_uncached [Locator] {s : Services σ} (hs : s.Sound .urlOrToken) (n : Network)
    (a : Action) : s.uncached.act n a = ((s.act n a).1.uncached, (s.act n a).2) := by
  cases a with
  | setBackendUrl url => rfl
  | logout => rfl
  | setToken token => rfl
  | clearToken => rfl
  | call op r =>
    simp only [Services.act, Services.call, hs.client_eq]
    rfl

theorem Sound.trace_uncached [Locator] [FixedTimeout σ] {s : Services σ} (hs : s.Sound .urlOrToken)
    (n : Network) (actions : List Action) : s.trace n actions = s.uncached.trace n actions := by
  induction actions generalizing s n with
  | nil => rfl
  | cons a rest ih =>
    rw [trace, Uncached.trace, hs.act_uncached, ih (hs.act n a)]

theorem trace_of_eq_uncached [Locator] (session : State) (budgets : PerOperation Duration)
    (n : Network) (actions : List Action) :
    (of session .urlOrToken budgets).trace n actions =
      Uncached.trace ⟨session, budgets⟩ n actions :=
  (sound_of session .urlOrToken budgets).trace_uncached n actions

end Services
end DownloadClient.Client
