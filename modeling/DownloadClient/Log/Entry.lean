import DownloadClient.Text.Digits

/-! What the library notes while it works: spans that name the operation under way, and events of
a level, each with named fields. -/

namespace DownloadClient.Log

inductive Level
  | trace
  | debug
  | info
  | warn
  | error
  deriving DecidableEq, Repr

def Level.name : Level → String
  | .trace => "TRACE"
  | .debug => "DEBUG"
  | .info => "INFO"
  | .warn => "WARN"
  | .error => "ERROR"

abbrev Fields := List (String × String)

inductive Event
  | urlStored (url : String)
  | backendSwitched (url : String)
  | urlChanged (old new : String)
  | tokenChanged
  | loggingIn (email : String)
  | responseReceived (operation : String) (status length : Nat)
  /-- whether the body told a reason -/
  | requestFailed (operation : String) (status : Nat) (structured : Bool)
  | callFailed (operation error message : String)
  deriving DecidableEq

namespace Event

def level : Event → Level
  | .urlStored _ | .urlChanged _ _ | .tokenChanged | .loggingIn _ | .requestFailed _ _ _ => .debug
  | .backendSwitched _ => .info
  | .responseReceived _ _ _ => .trace
  | .callFailed _ _ _ => .warn

def text : Event → String
  | .urlStored _ => "backend url updated"
  | .backendSwitched _ => "switching backend"
  | .urlChanged _ _ => "url changed"
  | .tokenChanged => "token changed"
  | .loggingIn _ => "logging in"
  | .responseReceived _ _ _ => "response received"
  | .requestFailed _ _ _ => "request failed"
  | .callFailed _ _ _ => "api call failed"

def number (n : Nat) : String := String.ofList (Text.decimal n)

def flag (b : Bool) : String := if b then "true" else "false"

def fields : Event → Fields
  | .urlStored url | .backendSwitched url => [("url", url)]
  | .urlChanged old new => [("from", old), ("to", new)]
  | .tokenChanged => []
  | .loggingIn email => [("email", email)]
  | .responseReceived operation status length =>
    [("operation", operation), ("status", number status), ("len", number length)]
  | .requestFailed operation status structured =>
    [("operation", operation), ("status", number status), ("structured", flag structured)]
  | .callFailed operation error message =>
    [("operation", operation), ("error", error), ("message", message)]

end Event

inductive Entry
  | span (name : String) (fields : Fields)
  | event (e : Event)
  deriving DecidableEq

end DownloadClient.Log
