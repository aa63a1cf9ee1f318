import DownloadClient.Command.Run

/-! The shell: commands are read line by line until one of them leaves it. A command that fails
does not. -/

namespace DownloadClient.Command

open DownloadClient.Client DownloadClient.Display DownloadClient.Log DownloadClient.Session
open DownloadClient.Text

inductive LineOutcome
  | goOn
  | leave
  deriving DecidableEq, Repr

/-- The argument library prints the commands and flags as well; this stands for its text. -/
def helpText (synopsis : String) : String := "Usage: " ++ synopsis ++ "\n"

def Ran.goingOn (r : Ran Unit) : Ran LineOutcome :=
  { r with result := r.result.map fun _ => .goOn }

def runShellCommand [Locator] (c : Context) (format : OutputFormat) (answer : Option Answer) :
    ShellCommand → Ran LineOutcome
  | .api command => (runApi c format answer command).goingOn
  | .setUrl url =>
    { context := { c with services := c.services.setBackendUrl url }
      result := .ok .goOn
      stdout := "backend: " ++ url ++ "\n"
      log := Services.switchNoted State url }
  | .logout =>
    { context := { c with services := c.services.logout }
      result := .ok .goOn
      stdout := "logged out\n" }
  | .exit => { context := c, result := .ok .leave }

def runLine [Locator] (c : Context) (format : OutputFormat) (answer : Option Answer)
    (line : String) : Ran LineOutcome :=
  match parseLine line with
  | .ok none => { context := c, result := .ok .goOn }
  | .ok (some command) => runShellCommand c format answer command
  | .error (.usage e) =>
    if e.isHelp then { context := c, result := .ok .goOn, stdout := helpText shellSynopsis }
    else { context := c, result := .error (.refused (.line (.usage e))) }
  | .error .openQuote => { context := c, result := .error (.refused (.line .openQuote)) }

structure InputLine where
  bytes : List UInt8
  ended : Bool
  deriving DecidableEq

def lineFeed : UInt8 := 10

def carriageReturn : UInt8 := 13

/-- Lines end with a line feed; bytes behind the last one are a line too. -/
def inputLines : List UInt8 → List InputLine
  | [] => []
  | b :: r =>
    if b = lineFeed then ⟨[], true⟩ :: inputLines r
    else
      match inputLines r with
      | [] => [⟨[b], false⟩]
      | l :: ls => { l with bytes := b :: l.bytes } :: ls

def InputLine.content (l : InputLine) : List UInt8 :=
  if l.ended ∧ l.bytes.getLast? = some carriageReturn then l.bytes.dropLast else l.bytes

def InputLine.text (l : InputLine) : Except Fault String :=
  match String.fromUTF8? l.content.toByteArray with
  | some s => .ok s
  | none => .error (faultOf (if l.ended then l.bytes ++ [lineFeed] else l.bytes))

structure Transcript where
  context : Context
  result : Except CommandError Unit
  stdout : String
  stderr : String
  received : List HttpRequest
  log : List Entry

def prompt : String := "pikweb> "

def Transcript.after (first : Ran α) (prompted : String) (s : Transcript) : Transcript :=
  { s with
    stdout := prompted ++ first.stdout ++ s.stdout
    stderr := (match first.result with
      | .ok _ => ""
      | .error e => e.line) ++ s.stderr
    received := first.received ++ s.received
    log := first.log ++ s.log }

def runLines [Locator] (c : Context) (format : OutputFormat) (prompted : String)
    (terminal : Option Terminal) : List InputLine → Transcript
  | [] => ⟨c, .ok (), prompted, "", [], []⟩
  | l :: ls =>
    match l.text with
    | .error f => ⟨c, .error (.input f), prompted, "", [], []⟩
    | .ok line =>
      let first := runLine c format (terminal.map Terminal.first) line
      match first.result with
      | .ok .leave => .after first prompted ⟨first.context, .ok (), "", "", [], []⟩
      | _ =>
        .after first prompted
          (runLines first.context format prompted (terminal.map Terminal.next) ls)

def runShell [Locator] (c : Context) (format : OutputFormat) (interactive : Bool)
    (terminal : Option Terminal) (input : List UInt8) : Transcript :=
  runLines c format (if interactive then prompt else "") terminal (inputLines input)

end DownloadClient.Command
