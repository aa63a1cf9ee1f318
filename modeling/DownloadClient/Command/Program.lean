import DownloadClient.Command.Shell

/-! The program: its arguments and environment, its input, what it prints and how it ends. -/

namespace DownloadClient.Command

open DownloadClient.Client DownloadClient.Log

structure Finished where
  exitCode : Nat
  stdout : String
  stderr : String
  received : List HttpRequest := []
  log : List Entry := []

def Finished.ofRan (r : Ran Unit) : Finished :=
  match r.result with
  | .ok _ => ⟨0, r.stdout, "", r.received, r.log⟩
  | .error e => ⟨e.exitCode, r.stdout, e.line, r.received, r.log⟩

def Finished.ofTranscript (s : Transcript) : Finished :=
  match s.result with
  | .ok _ => ⟨0, s.stdout, s.stderr, s.received, s.log⟩
  | .error e => ⟨e.exitCode, s.stdout, s.stderr ++ e.line, s.received, s.log⟩

/-- One command given to the program asks for its password as a first line would. -/
def perform [Locator] (settings : Settings) (terminal : Option Terminal) (input : List UInt8)
    (network : Network) : ProgramCommand → Finished
  | .api command =>
    .ofRan (runApi (.of settings.apiUrl settings.token settings.timeout network) settings.output
      (terminal.map Terminal.first) command)
  | .shell =>
    .ofTranscript (runShell (.of settings.apiUrl settings.token settings.timeout network)
      settings.output terminal.isSome terminal input)

def run [Locator] (env : Environment) (words : List String) (terminal : Option Terminal)
    (input : List UInt8) (network : Network) : Except UsageError Finished := do
  let (settings, command) ← parseArguments env words
  return perform settings terminal input network command

def ofUsageError (e : UsageError) : Finished :=
  if e = .helpAsked then ⟨e.exitCode, helpText programSynopsis, "", [], []⟩
  else ⟨e.exitCode, "", e.message programSynopsis ++ "\n", [], []⟩

end DownloadClient.Command
