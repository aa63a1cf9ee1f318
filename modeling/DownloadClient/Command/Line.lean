import DownloadClient.Command.Api
import DownloadClient.Command.Words
import DownloadClient.Display.Table

/-! The two languages of commands: that of the program's arguments, and that of the lines typed
into its shell. The commands that call the backend are the same in both. -/

namespace DownloadClient.Command

open DownloadClient.Display

def programSynopsis : String := "pikweb [OPTIONS] <COMMAND>"

inductive LogFormat
  | pretty
  | json
  deriving DecidableEq, Repr

structure Settings where
  apiUrl : String
  token : Option String
  timeout : Option UInt64
  output : OutputFormat
  logLevel : String
  logFormat : Option LogFormat
  deriving DecidableEq

def defaultUrl : String := "http://127.0.0.1:22523"

def defaultLogLevel : String := "warn"

def sharedFlags : List Flag :=
  [{ name := "api-url", takes := .value .url, standIn := some "PIKWEB_API_URL" },
    { name := "token", takes := .value .any, standIn := some "PIKWEB_TOKEN" },
    { name := "timeout", takes := .value .seconds, standIn := some "PIKWEB_HTTP_TIMEOUT_SECS" },
    { name := "output", aliases := ["format"], takes := .value (.oneOf ["table", "json"]) },
    { name := "log-level", takes := .value .any, standIn := some "PIKWEB_LOG" },
    { name := "log-format", takes := .value (.oneOf ["pretty", "json"]) }]

inductive ProgramVerb
  | api (v : Verb)
  | shell
  deriving DecidableEq

inductive ProgramCommand
  | api (c : ApiCommand)
  | shell
  deriving DecidableEq

namespace ProgramVerb

def names : ProgramVerb → List String
  | .api v => [v.name]
  | .shell => ["shell"]

def grammar : ProgramVerb → Grammar
  | .api v => v.grammar
  | .shell => {}

def commands : Commands ProgramVerb := ⟨Verb.all.map .api ++ [.shell], names, grammar⟩

def read (m : Matches) : ProgramVerb → ProgramCommand
  | .api v => .api (v.read m)
  | .shell => .shell

end ProgramVerb

/-- The value of a shared flag: that given to the command, that given before it, or that of the
environment. -/
def sharedValue (p : Commands.Parsed κ) (env : Environment) (name : String) : Option String :=
  (p.inner.first? name).or <| (p.outer.first? name).or <| do
    let f ← sharedFlags.find? (·.name == name)
    let value ← f.standIn.bind env
    let m ← (accept [] f.name f.takes [value]).toOption
    m.first? name

def outputFormat? : String → Option OutputFormat
  | "table" => some .table
  | "json" => some .json
  | _ => none

def logFormat? : String → Option LogFormat
  | "pretty" => some .pretty
  | "json" => some .json
  | _ => none

def settingsOf (value : String → Option String) : Settings where
  apiUrl := (value "api-url").getD defaultUrl
  token := value "token"
  timeout := (value "timeout").bind ValueKind.seconds?
  output := ((value "output").bind outputFormat?).getD .table
  logLevel := (value "log-level").getD defaultLogLevel
  logFormat := (value "log-format").bind logFormat?

def parseArguments (env : Environment) (words : List String) :
    Except UsageError (Settings × ProgramCommand) := do
  let p ← ProgramVerb.commands.parse sharedFlags env words
  return (settingsOf (sharedValue p env), p.command.read p.inner)

def shellSynopsis : String := "pikweb <COMMAND>"

inductive ShellVerb
  | api (v : Verb)
  | setUrl
  | logout
  | exit
  deriving DecidableEq

inductive ShellCommand
  | api (c : ApiCommand)
  | setUrl (url : String)
  | logout
  | exit
  deriving DecidableEq

namespace ShellVerb

def names : ShellVerb → List String
  | .api v => [v.name]
  | .setUrl => ["set-url"]
  | .logout => ["logout"]
  | .exit => ["exit", "quit"]

def grammar : ShellVerb → Grammar
  | .api v => v.grammar
  | .setUrl => { places := [⟨"url", .url⟩], required := ["url"] }
  | .logout | .exit => {}

def commands : Commands ShellVerb :=
  ⟨Verb.all.map .api ++ [.setUrl, .logout, .exit], names, grammar⟩

def read (m : Matches) : ShellVerb → ShellCommand
  | .api v => .api (v.read m)
  | .setUrl => .setUrl ((m.first? "url").getD "")
  | .logout => .logout
  | .exit => .exit

end ShellVerb

def noEnvironment : Environment := fun _ => none

def parseShellWords (words : List String) : Except UsageError ShellCommand := do
  let p ← ShellVerb.commands.parse [] noEnvironment words
  return p.command.read p.inner

inductive LineError
  | openQuote
  | usage (e : UsageError)
  deriving DecidableEq

def parseLine (line : String) : Except LineError (Option ShellCommand) :=
  match words? line with
  | none => .error .openQuote
  | some [] => .ok none
  | some words => ((parseShellWords words).mapError .usage).map some

end DownloadClient.Command
