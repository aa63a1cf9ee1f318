import DownloadClient.Client.Services
import DownloadClient.Command.Line

/-! Commands carried out: what they ask of the backend, what they print, and how they fail. -/

namespace DownloadClient.Command

open DownloadClient.Client DownloadClient.Display DownloadClient.Log DownloadClient.Session
open DownloadClient.Text

inductive Refusal
  | line (e : LineError)
  | blankEmail
  | passwordNeeded
  | emptyPassword
  | blankPath
  | blankFileId
  | blankOutputDir
  deriving DecidableEq

def Refusal.message : Refusal → String
  | .line .openQuote => "unterminated quote"
  | .line (.usage e) => e.message shellSynopsis
  | .blankEmail => "email must not be empty"
  | .passwordNeeded => "password required; supply via --password when running non-interactively"
  | .emptyPassword => "password must not be empty"
  | .blankPath => "path must not be empty"
  | .blankFileId => "file id must not be empty"
  | .blankOutputDir => "output directory must not be empty"

inductive CommandError
  | refused (r : Refusal)
  | call (e : CallError)
  | password (detail : String)
  | input (f : Fault)

namespace CommandError

def exitCode : CommandError → Nat
  | .refused _ => 2
  | .call _ | .password _ | .input _ => 3

def message : CommandError → String
  | .refused r => r.message
  | .call e => e.message
  | .password detail => "failed to read password: " ++ detail
  | .input f => "failed to read command from stdin: " ++ f.message

def line (e : CommandError) : String := "error: " ++ e.message ++ "\n"

end CommandError

structure Call where
  op : Operation
  request : op.Request

inductive Answer
  | typed (text : String)
  | unread (detail : String)

/-- The answers on a terminal, by the number of the line on which a password is asked for. -/
def Terminal := Nat → Answer

def Terminal.first (t : Terminal) : Answer := t 0

def Terminal.next (t : Terminal) : Terminal := fun line => t (line + 1)

def filled (s : String) (complaint : Refusal) : Except CommandError String :=
  if blank s then .error (.refused complaint) else .ok (trimmed s)

def checkedPassword (p : String) : Except CommandError String :=
  if p = "" then .error (.refused .emptyPassword) else .ok p

def passwordOf : Option String → Option Answer → Except CommandError String
  | some p, _ => checkedPassword p
  | none, some (.typed p) => checkedPassword p
  | none, some (.unread detail) => .error (.password detail)
  | none, none => .error (.refused .passwordNeeded)

def filterOf (fs : List Api.StatusFilter) : Option (List Api.StatusFilter) :=
  if fs.isEmpty then none else some fs

def ApiCommand.call (answer : Option Answer) : ApiCommand → Except CommandError Call
  | .login email password => do
    let email ← filled email .blankEmail
    let password ← passwordOf password answer
    return ⟨.login, email, password⟩
  | .list path => do
    let path ← filled path .blankPath
    return ⟨.remoteList, ⟨path⟩⟩
  | .begin fileId outputDir rename => do
    let fileId ← filled fileId .blankFileId
    let outputDir ← filled outputDir .blankOutputDir
    return ⟨.downloadBegin, fileId, outputDir, trimmed (rename.getD "")⟩
  | .pause fileId => do
    let fileId ← filled fileId .blankFileId
    return ⟨.downloadPause, ⟨fileId⟩⟩
  | .resume fileId => do
    let fileId ← filled fileId .blankFileId
    return ⟨.downloadResume, ⟨fileId⟩⟩
  | .remove fileId deleteFile => do
    let fileId ← filled fileId .blankFileId
    return ⟨.downloadRemove, fileId, deleteFile⟩
  | .status filter => .ok ⟨.downloadStatus, ⟨filterOf filter⟩⟩

def rendered (format : OutputFormat) : (op : Operation) → op.Request → op.Response → String
  | .login, _, r => renderLogin r format
  | .remoteList, _, r => renderList r format
  | .downloadBegin, q, r => renderAction ⟨"started", Api.BeginRequest.fileId q, r⟩ format
  | .downloadPause, q, r => renderAction ⟨"paused", Api.FileRequest.fileId q, r⟩ format
  | .downloadResume, q, r => renderAction ⟨"resumed", Api.FileRequest.fileId q, r⟩ format
  | .downloadRemove, q, r => renderAction ⟨"removed", Api.RemoveRequest.fileId q, r⟩ format
  | .downloadStatus, _, r => renderStatus r format

structure Context where
  services : Services State
  network : Network

/-- A time given in seconds is that of the session and of every operation. Clients follow the
token, so that a login counts from the next command on. -/
def Context.of (url : String) (token : Option String) (timeout : Option UInt64)
    (network : Network) : Context :=
  let time := timeout.map fun s => Duration.ofSeconds s.toNat
  let budgets := (time.map PerOperation.uniform).getD defaultBudgets
  ⟨Services.of (State.of url token time) .urlOrToken budgets, network⟩

structure Ran (α : Type) where
  context : Context
  result : Except CommandError α
  stdout : String := ""
  received : List HttpRequest := []
  log : List Entry := []

def runCall [Locator] (c : Context) (format : OutputFormat) (x : Call) : Ran Unit :=
  let o := c.services.call x.op x.request c.network
  { context := ⟨o.services, o.network⟩
    result := (o.result.mapError .call).map fun _ => ()
    stdout := match o.result with
      | .ok r => rendered format x.op x.request r
      | .error _ => ""
    received := o.received
    log := o.log }

def runApi [Locator] (c : Context) (format : OutputFormat) (answer : Option Answer)
    (command : ApiCommand) : Ran Unit :=
  match command.call answer with
  | .error e => { context := c, result := .error e }
  | .ok x => runCall c format x

end DownloadClient.Command
