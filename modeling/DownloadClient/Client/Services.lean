import DownloadClient.Client.Cache
import DownloadClient.Client.Call
import DownloadClient.Text.Split

/-! The operations of a session. Each has a cached client of its own, and a time in which it has to
be answered; a login that succeeds leaves its token in the session's store. -/

namespace DownloadClient.Client

open DownloadClient.Api DownloadClient.Log DownloadClient.Session DownloadClient.Text

def defaultBudgets : PerOperation Duration where
  login := .ofSeconds 10
  remoteList := .ofSeconds 4
  downloadBegin := .ofSeconds 8
  downloadPause := .ofSeconds 4
  downloadResume := .ofSeconds 4
  downloadRemove := .ofSeconds 8
  downloadStatus := .ofSeconds 2

def maskEmail (email : String) : String :=
  let (name, domain) := (cut? '@' email.toList).getD (email.toList, [])
  String.ofList (name.take 1 ++ "***".toList ++ if domain.isEmpty then [] else '@' :: domain)

structure Services (σ : Type) where
  session : σ
  budgets : PerOperation Duration
  caches : PerOperation Cache

namespace Services

variable {σ : Type} [Store σ]

def of (session : σ) (policy : StalenessPolicy := .urlOnly)
    (budgets : PerOperation Duration := defaultBudgets) : Services σ where
  session := session
  budgets := budgets
  caches := .uniform (.of policy (Store.configuration session))

def setBackendUrl (url : String) (s : Services σ) : Services σ :=
  { s with session := Store.setBackendUrl url s.session }

def switchNoted (σ : Type) [Store σ] (url : String) : List Entry :=
  .event (.backendSwitched url) :: Store.noted σ url

def logout (s : Services σ) : Services σ := { s with session := Store.clearToken s.session }

def refreshed (s : Services σ) (op : Operation) : Services σ :=
  let cache := (s.caches.get op).refresh (Store.configuration s.session)
  { s with caches := s.caches.set op cache }

def client (s : Services σ) (op : Operation) : Configuration :=
  ((s.refreshed op).caches.get op).client.config

def greeting : (op : Operation) → op.Request → List Entry
  | .login, r => [.event (.loggingIn (maskEmail (LoginRequest.email r)))]
  | .remoteList, _ => []
  | .downloadBegin, _ => []
  | .downloadPause, _ => []
  | .downloadResume, _ => []
  | .downloadRemove, _ => []
  | .downloadStatus, _ => []

def startNoted (s : Services σ) (op : Operation) (r : op.Request) : List Entry :=
  (s.caches.get op).noted (Store.configuration s.session) ++ greeting op r
    ++ [.span op.name (op.spanFields r)]

def stored (session : σ) : (op : Operation) → Except Cause op.Response → σ
  | .login, .ok r => Store.setToken (LoginResponse.token r) session
  | _, _ => session

def finish (s : Services σ) (op : Operation) (result : Except Cause op.Response) : Services σ :=
  { s with session := stored s.session op result }

def failureNoted (e : CallError) : Entry := .event (.callFailed e.operation e.describe e.message)

structure Outcome (σ : Type) (op : Operation) where
  services : Services σ
  network : Network
  result : Except CallError op.Response
  received : List HttpRequest
  log : List Entry

def call [Locator] (s : Services σ) (op : Operation) (r : op.Request) (n : Network) :
    Outcome σ op :=
  let x := Client.call (s.client op) op r (some (s.budgets.get op)) n
  { services := (s.refreshed op).finish op x.result
    network := x.network
    result := x.result.mapError (CallError.mk op.name)
    received := x.received
    log := s.startNoted op r ++ x.log ++ x.error?.toList.map failureNoted }

end Services
end DownloadClient.Client
