import DownloadClient.Api.Download
import DownloadClient.Command.Usage

namespace DownloadClient.Command

open DownloadClient.Api

inductive Verb
  | login
  | list
  | begin
  | pause
  | resume
  | remove
  | status
  deriving DecidableEq, Repr

inductive ApiCommand
  | login (email : String) (password : Option String)
  | list (path : String)
  | begin (fileId outputDir : String) (rename : Option String)
  | pause (fileId : String)
  | resume (fileId : String)
  | remove (fileId : String) (deleteFile : Bool)
  | status (filter : List StatusFilter)
  deriving DecidableEq

def filterWord : StatusFilter → String
  | .downloading => "downloading"
  | .paused => "paused"
  | .completed => "completed"
  | .waiting => "waiting"
  | .hasError => "has-error"

def filterOf? (s : String) : Option StatusFilter := StatusFilter.all.find? (filterWord · == s)

def fileIdPlace : Place := ⟨"file-id", .any⟩

namespace Verb

def all : List Verb := [.login, .list, .begin, .pause, .resume, .remove, .status]

def name : Verb → String
  | .login => "login"
  | .list => "ls"
  | .begin => "begin"
  | .pause => "pause"
  | .resume => "resume"
  | .remove => "remove"
  | .status => "status"

def grammar : Verb → Grammar
  | .login =>
    { flags := [{ name := "email", takes := .value .any },
        { name := "password", takes := .value .any }]
      required := ["email"] }
  | .list => { places := [⟨"path", .any⟩] }
  | .begin =>
    { flags := [{ name := "output-dir", takes := .value .any },
        { name := "rename", takes := .value .any }]
      places := [fileIdPlace]
      required := ["file-id", "output-dir"] }
  | .pause | .resume => { places := [fileIdPlace], required := ["file-id"] }
  | .remove =>
    { flags := [{ name := "delete-file", takes := .nothing }]
      places := [fileIdPlace]
      required := ["file-id"] }
  | .status =>
    { flags := [{ name := "filter", takes := .values (.oneOf (StatusFilter.all.map filterWord)) }] }

def read (v : Verb) (m : Matches) : ApiCommand :=
  let text (name : String) := (m.first? name).getD ""
  match v with
  | .login => .login (text "email") (m.first? "password")
  | .list => .list ((m.first? "path").getD "/")
  | .begin => .begin (text "file-id") (text "output-dir") (m.first? "rename")
  | .pause => .pause (text "file-id")
  | .resume => .resume (text "file-id")
  | .remove => .remove (text "file-id") (m.has "delete-file")
  | .status => .status ((m.all "filter").filterMap filterOf?)

end Verb

def ApiCommand.verb : ApiCommand → Verb
  | .login _ _ => .login
  | .list _ => .list
  | .begin _ _ _ => .begin
  | .pause _ => .pause
  | .resume _ => .resume
  | .remove _ _ => .remove
  | .status _ => .status

end DownloadClient.Command
