import DownloadClient.Text.Blank
import DownloadClient.Text.Quoted

/-! What a client is built with: where the backend is, the token to show it, and how long to wait
for an answer. -/

namespace DownloadClient.Session

open DownloadClient.Text

structure Duration where
  milliseconds : Nat
  deriving DecidableEq, Repr

namespace Duration

def ofSeconds (s : Nat) : Duration := ⟨1000 * s⟩

def places (thousandths : Nat) : List Char :=
  if thousandths = 0 then []
  else if thousandths % 100 = 0 then ['.', digitChar (thousandths / 100)]
  else if thousandths % 10 = 0 then
    ['.', digitChar (thousandths / 100), digitChar (thousandths / 10 % 10)]
  else
    ['.', digitChar (thousandths / 100), digitChar (thousandths / 10 % 10),
      digitChar (thousandths % 10)]

def describe (d : Duration) : String :=
  if d.milliseconds = 0 then "0ns"
  else if d.milliseconds < 1000 then String.ofList (decimal d.milliseconds) ++ "ms"
  else
    String.ofList (decimal (d.milliseconds / 1000) ++ places (d.milliseconds % 1000)) ++ "s"

end Duration

structure Configuration where
  baseUrl : String
  accessToken : Option String
  timeout : Option Duration
  token_not_blank : ∀ t ∈ accessToken, blank t = false
  deriving DecidableEq

namespace Configuration

def normalToken (token : Option String) : Option String := token.filter fun t => !blank t

theorem normalToken_not_blank (token : Option String) :
    ∀ t ∈ normalToken token, blank t = false := by
  intro t h
  simp only [normalToken, Option.mem_def, Option.filter_eq_some_iff] at h
  simpa using h.2

def of (baseUrl : String) (token : Option String) (timeout : Option Duration) : Configuration where
  baseUrl := baseUrl
  accessToken := normalToken token
  timeout := timeout
  token_not_blank := normalToken_not_blank token

def describeOption (f : α → String) : Option α → String
  | none => "None"
  | some x => "Some(" ++ f x ++ ")"

def describe (c : Configuration) : String :=
  "Configuration \x7b base_url: " ++ quoted c.baseUrl
    ++ ", access_token: " ++ describeOption (fun _ => quoted "********") c.accessToken
    ++ ", timeout: " ++ describeOption Duration.describe c.timeout ++ " \x7d"

theorem describeOption_const (shown : String) (o : Option α) :
    describeOption (fun _ => shown) o = if o.isSome then "Some(" ++ shown ++ ")" else "None" := by
  cases o <;> rfl

theorem describe_eq_of_token_isSome {c d : Configuration} (url : c.baseUrl = d.baseUrl)
    (token : c.accessToken.isSome = d.accessToken.isSome) (timeout : c.timeout = d.timeout) :
    c.describe = d.describe := by
  unfold describe
  -- The stars are not to be computed.
  generalize quoted "********" = shown
  rw [url, timeout, describeOption_const, describeOption_const, token]

end Configuration
end DownloadClient.Session
