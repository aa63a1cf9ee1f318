import DownloadClient.Session.Store

namespace DownloadClient.Client

open DownloadClient.Log DownloadClient.Session

inductive StalenessPolicy
  | urlOnly
  | urlOrToken
  deriving DecidableEq, Repr

/-- A client as it was built. The serial number tells the builds of one cache apart. -/
structure Built where
  serial : Nat
  config : Configuration
  deriving DecidableEq

structure Cache where
  policy : StalenessPolicy
  boundUrl : String
  boundToken : Option String
  client : Built
  deriving DecidableEq

namespace Cache

def build (policy : StalenessPolicy) (serial : Nat) (config : Configuration) : Cache where
  policy := policy
  boundUrl := config.baseUrl
  boundToken := config.accessToken
  client := ⟨serial, config⟩

def of (policy : StalenessPolicy) (config : Configuration) : Cache := build policy 1 config

def urlChanged (c : Cache) (config : Configuration) : Bool := c.boundUrl != config.baseUrl

def tokenChanged (c : Cache) (config : Configuration) : Bool :=
  c.policy == .urlOrToken && c.boundToken != config.accessToken

def stale (c : Cache) (config : Configuration) : Bool :=
  c.urlChanged config || c.tokenChanged config

def builds (c : Cache) : Nat := c.client.serial

def refresh (c : Cache) (config : Configuration) : Cache :=
  if c.stale config then build c.policy (c.client.serial + 1) config else c

def noted (c : Cache) (config : Configuration) : List Entry :=
  if c.urlChanged config then [.event (.urlChanged c.boundUrl config.baseUrl)]
  else if c.tokenChanged config then [.event .tokenChanged]
  else []

@[simp] theorem policy_refresh (c : Cache) (config : Configuration) :
    (c.refresh config).policy = c.policy := by
  unfold refresh
  split <;> rfl

theorem refresh_of_not_stale {c : Cache} {config : Configuration} (h : c.stale config = false) :
    c.refresh config = c := by
  simp [refresh, h]

theorem client_refresh_of_stale {c : Cache} {config : Configuration} (h : c.stale config = true) :
    (c.refresh config).client = ⟨c.client.serial + 1, config⟩ := by
  simp [refresh, h, build]

end Cache
end DownloadClient.Client
