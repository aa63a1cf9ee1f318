import DownloadClient.Client.Request

namespace DownloadClient.Client

open DownloadClient.Api DownloadClient.Json DownloadClient.Log DownloadClient.Session

/-- Where the JSON library stops in a body that it cannot read as the response to an operation. How
it counts is its own matter. -/
class Locator where
  position : Operation → ByteArray → Position

/-- The end of the body, which is where it stops when a member is missing. -/
abbrev Locator.atEnd : Locator where
  position _ body :=
    let bytes := body.data.toList
    ⟨bytes.count 10 + 1, (bytes.reverse.takeWhile (· != 10)).length⟩

def Operation.unread [Locator] (op : Operation) (body : ByteArray) (reason : DecodeError) :
    DecodeFailure :=
  ⟨reason, some (Locator.position op body)⟩

def checked : (op : Operation) → op.Response → Except Cause op.Response
  | .login, r =>
    if Text.blank (LoginResponse.token r) then
      .error (.decode ⟨.custom "login response carried an empty token", none⟩)
    else .ok r
  | .remoteList, r => .ok r
  | .downloadBegin, r => .ok r
  | .downloadPause, r => .ok r
  | .downloadResume, r => .ok r
  | .downloadRemove, r => .ok r
  | .downloadStatus, r => .ok r

def errorBody? (body : ByteArray) : Option Envelope :=
  match Reader.any.readBytes body with
  | .ok x => Envelope.ofErrorBody? x
  | .error _ => none

/-- The status is judged first, then the body, then the envelope in it. -/
def classify [Locator] (op : Operation) (response : HttpResponse) : Except Cause op.Response :=
  if response.isSuccess = false then .error (.status response.status (errorBody? response.body))
  else
    match op.reader.readBytes response.body with
    | .error reason => .error (.decode (op.unread response.body reason))
    | .ok r =>
      if (op.envelope r).isSuccess then checked op r
      else .error (.server (op.envelope r).code (op.envelope r).message)

def arrival (op : Operation) : Option HttpResponse → List Entry
  | none => []
  | some r =>
    .event (.responseReceived op.name r.status r.body.size)
      :: if r.isSuccess then []
        else [.event (.requestFailed op.name r.status (errorBody? r.body).isSome)]

abbrev Prepared := Except SetupError HttpRequest

structure Called (op : Operation) where
  result : Except Cause op.Response
  received : List HttpRequest
  network : Network
  log : List Entry

def conclude [Locator] (op : Operation) : Option HttpResponse → Except Cause op.Response
  | none => .error .noResponse
  | some response => classify op response

def send [Locator] (op : Operation) (timeout : Option Duration) (n : Network) : Prepared → Called op
  | .error e => ⟨.error (.setup e), [], n, []⟩
  | .ok request =>
    let x := n.exchange timeout request
    ⟨conclude op x.response, x.received, x.network, arrival op x.response⟩

def call [Locator] (c : Configuration) (op : Operation) (r : op.Request) (own : Option Duration)
    (n : Network) : Called op :=
  send op (own.or c.timeout) n (prepare c op r)

def Called.error? {op : Operation} (x : Called op) : Option CallError :=
  match x.result with
  | .ok _ => none
  | .error cause => some ⟨op.name, cause⟩

end DownloadClient.Client
