import DownloadClient.Session.Configuration
import DownloadClient.Log.Entry

/-! Stores of what a session knows: the backend's URL and the bearer token. Clients are built with
the configuration that a store holds at that moment. -/

namespace DownloadClient.Session

open DownloadClient.Log

class Store (σ : Type) where
  backendUrl : σ → String
  accessToken : σ → Option String
  requestTimeout : σ → Option Duration
  setBackendUrl : String → σ → σ
  setToken : String → σ → σ
  clearToken : σ → σ
  /-- what is noted when the URL is set -/
  noted : String → List Entry

namespace Store

variable {σ : Type} [Store σ]

def configuration (s : σ) : Configuration :=
  .of (backendUrl s) (accessToken s) (requestTimeout s)

end Store

/-- An empty token stands for none. -/
structure State where
  url : String
  token : String
  timeout : Option Duration
  deriving DecidableEq

namespace State

def of (url : String) (token : Option String) (timeout : Option Duration) : State :=
  ⟨url, token.getD "", timeout⟩

def token? (s : State) : Option String := if s.token = "" then none else some s.token

instance : Store State where
  backendUrl := url
  accessToken := token?
  requestTimeout := timeout
  setBackendUrl url s := { s with url }
  setToken token s := { s with token }
  clearToken s := { s with token := "" }
  noted url := [.event (.urlStored url)]

end State

inductive Write
  | url (url : String)
  | token (token : String)
  | logout
  deriving DecidableEq

/-- A store that keeps what it is given as it is, and every write in order. -/
structure Recorder where
  url : String
  token : Option String
  writes : List Write := []
  deriving DecidableEq

namespace Recorder

def write (w : Write) (r : Recorder) : List Write := r.writes ++ [w]

instance : Store Recorder where
  backendUrl := url
  accessToken := token
  requestTimeout _ := none
  setBackendUrl url r := { r with url, writes := r.write (.url url) }
  setToken token r := { r with token := some token, writes := r.write (.token token) }
  clearToken r := { r with token := none, writes := r.write .logout }
  noted _ := []

end Recorder
end DownloadClient.Session
