import DownloadClient.Client.Error
import DownloadClient.Client.Exchange
import DownloadClient.Client.Operation
import DownloadClient.Web.Base64
import DownloadClient.Web.Form

/-! The request of a call: where it goes, what it carries, and why it may not be sent at all. -/

namespace DownloadClient.Client

open DownloadClient.Session DownloadClient.Text DownloadClient.Web

def endpointText (base path : String) : String :=
  String.ofList ((base.toList.reverse.dropWhile (· == '/')).reverse
    ++ '/' :: path.toList.dropWhile (· == '/'))

def endpoint (base path : String) : Except SetupError Address :=
  (Address.ofString (endpointText base path)).mapError (.endpoint (endpointText base path))

def isHeaderChar (c : Char) : Bool := c == '\t' || (decide (0x20 ≤ c.toNat) && c != '\x7f')

def bearer (c : Configuration) : Except SetupError (Option String) :=
  match c.accessToken with
  | none => .ok none
  | some t => if t.toList.all isHeaderChar then .ok (some ("Bearer " ++ t)) else .error .token

def plain? (s : List Char) : Option (List UInt8) :=
  let bytes := percentDecode s
  (String.fromUTF8? bytes.toByteArray).map fun _ => bytes

/-- The header for the credentials in an address. They take the token's place. -/
def basic? (u : Address) : Option String := do
  let a ← u.authority
  let user ← plain? a.username
  let password := a.password.bind plain?
  if user = [] ∧ password = none then none
  else
    let text := user ++ ':'.toUInt8 :: password.getD []
    some ("Basic " ++ String.ofList (base64 text))

def anonymous (u : Address) : Address :=
  match basic? u with
  | none => u
  | some _ =>
    { u with authority := u.authority.map fun a => { a with username := [], password := none } }

/-- Characters that a host may have and a request line may not. -/
def requestLineForbids (c : Char) : Bool := ['"', '\x60', '{', '}'].contains c

def longestAddress : Nat := 65534

def sendable (u : Address) : Bool :=
  (u.scheme == "http".toList || u.scheme == "https".toList)
    && !u.host.text.any requestLineForbids && decide (u.text.length ≤ longestAddress)

def located : (op : Operation) → op.Request → Address → Address
  | .remoteList, r, u =>
    { u with query := some (Form.append u.query "path".toList (Api.ListRequest.path r).toList) }
  | .login, _, u => u
  | .downloadBegin, _, u => u
  | .downloadPause, _, u => u
  | .downloadResume, _, u => u
  | .downloadRemove, _, u => u
  | .downloadStatus, _, u => u

def addressed (op : Operation) (r : op.Request) (u : Address) : Except SetupError Address :=
  if u.host = .empty then .error (.address u.toString)
  else
    let whole := located op r (anonymous u)
    if sendable whole then .ok whole else .error (.address whole.toString)

def carried (op : Operation) (r : op.Request) (u : Address) (authorization : Option String) :
    HttpRequest :=
  if op = .remoteList then ⟨.get, u.target, authorization, none, ""⟩
  else ⟨.post, u.target, authorization, some "application/json", (op.requestJson r).compact⟩

def prepare (c : Configuration) (op : Operation) (r : op.Request) :
    Except SetupError HttpRequest := do
  let u ← endpoint c.baseUrl op.path
  let token ← bearer c
  let whole ← addressed op r u
  return carried op r whole ((basic? u).or token)

end DownloadClient.Client
