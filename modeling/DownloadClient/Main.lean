import DownloadClient.Command.Program

/-! The program itself. No transport is linked in, so that nothing answers on its network. -/

namespace DownloadClient.Program

open DownloadClient DownloadClient.Client DownloadClient.Command

def environment : IO Environment := do
  let names := sharedFlags.filterMap (·.standIn)
  let values ← names.mapM fun name => do return (name, ← IO.getEnv name)
  return fun name => (values.lookup name).join

def finish (f : Finished) : IO UInt32 := do
  IO.print f.stdout
  IO.eprint f.stderr
  return f.exitCode.toUInt32

partial def readAll (stream : IO.FS.Stream) (taken : ByteArray) : IO ByteArray := do
  let more ← stream.read 4096
  if more.isEmpty then return taken else readAll stream (taken ++ more)

def asksPassword : ApiCommand → Bool
  | .login email none => !Text.blank email
  | _ => false

/-- What is typed can be seen on the terminal. -/
def askPassword (stream : IO.FS.Stream) : IO Answer := do
  IO.eprint "Password: "
  let line ← stream.getLine
  if line.isEmpty then return .unread "unexpected end of file"
  return .typed (String.ofList (line.toList.filter fun c => c != '\n' && c != '\r'))

def answerTo (stream : IO.FS.Stream) (command : ApiCommand) : IO (Option Answer) := do
  if asksPassword command then return some (← askPassword stream) else return none

/-- One line at a time, so that each answer is seen before the next line is typed. -/
partial def converse [Locator] (stream : IO.FS.Stream) (settings : Settings) (c : Context) :
    IO UInt32 := do
  IO.print prompt
  (← IO.getStdout).flush
  let line ← stream.getLine
  if line.isEmpty then return 0
  let answer ← match parseLine line with
    | .ok (some (.api command)) => answerTo stream command
    | _ => pure none
  let r := runLine c settings.output answer line
  IO.print r.stdout
  match r.result with
  | .ok .leave => return 0
  | .ok .goOn => converse stream settings r.context
  | .error e =>
    IO.eprint e.line
    converse stream settings r.context

def start [Locator] (settings : Settings) (command : ProgramCommand) : IO UInt32 := do
  let stream ← IO.getStdin
  let attended ← stream.isTty
  match command with
  | .api api =>
    let answer ← if attended then answerTo stream api else pure none
    finish (perform settings (answer.map fun a _ => a) [] .unreachable command)
  | .shell =>
    if attended then
      converse stream settings (.of settings.apiUrl settings.token settings.timeout .unreachable)
    else
      let input ← readAll stream .empty
      finish (perform settings none input.toList .unreachable command)

end DownloadClient.Program

def main (words : List String) : IO UInt32 := do
  match DownloadClient.Command.parseArguments (← DownloadClient.Program.environment) words with
  | .ok (settings, command) =>
    letI := DownloadClient.Client.Locator.atEnd
    DownloadClient.Program.start settings command
  | .error e => DownloadClient.Program.finish (DownloadClient.Command.ofUsageError e)
