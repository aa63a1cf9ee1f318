import DownloadClient.Session.Configuration
import DownloadClient.Web.Address

namespace DownloadClient.Client

open DownloadClient.Session DownloadClient.Web

inductive Method
  | get
  | post
  deriving DecidableEq, Repr

structure HttpRequest where
  method : Method
  url : Address
  authorization : Option String
  contentType : Option String
  body : String
  deriving DecidableEq

structure HttpResponse where
  status : Nat
  body : ByteArray

def HttpResponse.isSuccess (r : HttpResponse) : Bool :=
  decide (200 ≤ r.status) && decide (r.status < 300)

inductive Delivery
  | complete
  | closed
  | garbled
  | truncated
  | hanging
  deriving DecidableEq, Repr

structure Reply where
  delivery : Delivery := .complete
  status : Nat := 200
  body : ByteArray := .empty
  delay : Duration := ⟨0⟩

def bodiless (status : Nat) : Bool := status == 101 || status == 204 || status == 304

/-- Below 200 all responses but one are interim, and the client goes on waiting for the last one. -/
def isFinal (status : Nat) : Bool :=
  status == 101 || (decide (200 ≤ status) && decide (status ≤ 999))

def Reply.response? (timeout : Option Duration) (r : Reply) : Option HttpResponse :=
  let late := timeout.any fun t => decide (t.milliseconds ≤ r.delay.milliseconds)
  if r.delivery = .complete ∧ isFinal r.status = true ∧ late = false then
    some ⟨r.status, if bodiless r.status then .empty else r.body⟩
  else none

/-- Nothing can be reached, or every host is a backend that gives these replies one after the other,
and then closes connections. Whether they come in the clear or over TLS makes no difference. -/
inductive Network
  | unreachable
  | scripted (replies : List Reply)

structure Exchange where
  response : Option HttpResponse
  received : List HttpRequest
  network : Network

def Network.exchange (n : Network) (timeout : Option Duration) (r : HttpRequest) : Exchange :=
  match n with
  | .unreachable => ⟨none, [], n⟩
  | .scripted [] => ⟨none, [r], n⟩
  | .scripted (reply :: rest) => ⟨reply.response? timeout, [r], .scripted rest⟩

end DownloadClient.Client
