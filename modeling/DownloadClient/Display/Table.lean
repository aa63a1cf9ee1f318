import DownloadClient.Api.Download
import DownloadClient.Api.Login
import DownloadClient.Api.RemoteFile
import DownloadClient.Display.Size

/-! What commands print: tables with one row for each entry, or JSON. -/

namespace DownloadClient.Display

open DownloadClient.Api DownloadClient.Number

inductive OutputFormat
  | table
  | json
  deriving DecidableEq, Repr

def padding (width : Nat) (s : List Char) : List Char := List.replicate (width - s.length) ' '

def left (width : Nat) (s : String) : List Char := s.toList ++ padding width s.toList

def right (width : Nat) (s : String) : List Char := padding width s.toList ++ s.toList

def columns (cells : List (List Char)) : String :=
  String.ofList (List.intercalate [' '] cells ++ ['\n'])

def listRow (id kind size name : String) : String :=
  columns [left 24 id, left 4 kind, right 11 size, name.toList]

def fileRow (f : RemoteFile) : String :=
  if f.isFolder then listRow f.id "dir" "-" (f.name ++ "/")
  else listRow f.id "file" ((f.sizeBytes?.map formatBytes).getD "?") f.name

def listTable (r : ListResponse) : String :=
  listRow "ID" "TYPE" "SIZE" "NAME" ++ String.join (r.files.map fileRow)
    ++ if r.files.isEmpty then "(empty)\n" else ""

def statusRow (id state progress size speed name : String) : String :=
  columns [left 24 id, left 11 state, right 7 progress, right 11 size, right 13 speed, name.toList]

def percent (x : Float) : String :=
  match FloatClass.of x with
  | .finite v => String.ofList (v.fixed 1) ++ "%"
  | .infinite _ => "inf%"
  | .nan => "NaN%"

def reasonLine : DownloadState → String
  | .hasError reason => "  reason: " ++ reason ++ "\n"
  | _ => ""

def downloadRow (s : DownloadStatus) : String :=
  statusRow s.fileId s.status.label (percent s.percentComplete) (formatBytes s.total)
      (formatSpeed s.currentSpeed) s.remoteFileName
    ++ reasonLine s.status

def statusTable (r : StatusResponse) : String :=
  statusRow "ID" "STATE" "PROG" "SIZE" "SPEED" "NAME" ++ String.join (r.downloads.map downloadRow)

structure ActionReport where
  action : String
  fileId : String
  envelope : Envelope
  deriving DecidableEq

def ActionReport.toJson (a : ActionReport) : Json :=
  .object ([("action", .text a.action), ("file_id", .text a.fileId)] ++ a.envelope.members)

def emit (format : OutputFormat) (json : Json) (table : String) : String :=
  match format with
  | .json => json.pretty ++ "\n"
  | .table => table

def renderLogin (r : LoginResponse) (format : OutputFormat) : String :=
  emit format r.toJson ("logged in\ntoken: " ++ r.token ++ "\n")

def renderList (r : ListResponse) (format : OutputFormat) : String :=
  emit format (ListResponse.filesJson r.files) (listTable r)

def renderStatus (r : StatusResponse) (format : OutputFormat) : String :=
  emit format (StatusResponse.downloadsJson r.downloads) (statusTable r)

def renderAction (a : ActionReport) (format : OutputFormat) : String :=
  emit format a.toJson (a.action ++ " " ++ a.fileId ++ "\n")

end DownloadClient.Display
