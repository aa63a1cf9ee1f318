import DownloadClient.Api.Envelope

/-! Downloads on the backend's host: requests that start, steer and drop them, and their
progress. -/

namespace DownloadClient.Api

open DownloadClient.Json

structure BeginRequest where
  fileId : String
  outputDir : String
  /-- empty to keep the remote name -/
  rename : String
  deriving DecidableEq

namespace BeginRequest

def toJson (r : BeginRequest) : Json :=
  .object [("file_id", .text r.fileId), ("output_dir", .text r.outputDir),
    ("rename", .text r.rename)]

def record : Record BeginRequest where
  name := "DownloadBeginReq"
  fields := [.of "file_id" Reader.string, .of "output_dir" Reader.string,
    .of "rename" Reader.string]
  short := false
  build room fs := do
    let fileId ← fs.required "file_id" Reader.string room
    let outputDir ← fs.required "output_dir" Reader.string room
    let rename ← fs.required "rename" Reader.string room
    return ⟨fileId, outputDir, rename⟩

def reader : Reader BeginRequest := .record record

end BeginRequest

structure FileRequest where
  fileId : String
  deriving DecidableEq

namespace FileRequest

def toJson (r : FileRequest) : Json := .object [("file_id", .text r.fileId)]

def record (name : String) : Record FileRequest where
  name := name
  fields := [.of "file_id" Reader.string]
  short := false
  build room fs := do return ⟨← fs.required "file_id" Reader.string room⟩

def pauseReader : Reader FileRequest := .record (record "DownloadPauseReq")

def resumeReader : Reader FileRequest := .record (record "DownloadResumeReq")

end FileRequest

structure RemoveRequest where
  fileId : String
  needRemoveFile : Bool
  deriving DecidableEq

namespace RemoveRequest

def toJson (r : RemoveRequest) : Json :=
  .object [("file_id", .text r.fileId), ("need_remove_file", .bool r.needRemoveFile)]

def record : Record RemoveRequest where
  name := "DownloadRemoveReq"
  fields := [.of "file_id" Reader.string, .of "need_remove_file" Reader.flag]
  short := false
  build room fs := do
    let fileId ← fs.required "file_id" Reader.string room
    let needRemoveFile ← fs.required "need_remove_file" Reader.flag room
    return ⟨fileId, needRemoveFile⟩

def reader : Reader RemoveRequest := .record record

end RemoveRequest

inductive StatusFilter
  | downloading
  | paused
  | completed
  | waiting
  | hasError
  deriving DecidableEq, Repr

namespace StatusFilter

def all : List StatusFilter := [.downloading, .paused, .completed, .waiting, .hasError]

def name : StatusFilter → String
  | .downloading => "Downloading"
  | .paused => "Paused"
  | .completed => "Completed"
  | .waiting => "Waiting"
  | .hasError => "HasError"

def names : List String := all.map name

def ofName? (s : String) : Option StatusFilter := all.find? (·.name == s)

def toJson (f : StatusFilter) : Json := .text f.name

def bare (s : String) : Except DecodeError StatusFilter :=
  match ofName? s with
  | some f => .ok f
  | none => .error (.variant s names)

def cases : Cases StatusFilter where
  known := names
  bare := bare
  applied s room t := do
    Reader.unit room t
    bare s

def reader : Reader StatusFilter := .cases cases

end StatusFilter

structure StatusRequest where
  filter : Option (List StatusFilter) := none
  deriving DecidableEq

namespace StatusRequest

def filterReader : Reader (Option (List StatusFilter)) := .optional (.list StatusFilter.reader)

def filterJson : Option (List StatusFilter) → Json
  | none => .null
  | some fs => .list (fs.map StatusFilter.toJson)

def toJson (r : StatusRequest) : Json := .object [("filter", filterJson r.filter)]

def record : Record StatusRequest where
  name := "MgetDownloadStatusReq"
  fields := [.of "filter" filterReader]
  short := false
  build room fs := do return ⟨← fs.withDefault "filter" filterReader none room⟩

def reader : Reader StatusRequest := .record record

end StatusRequest

inductive DownloadState
  | downloading
  | paused
  | completed
  | waiting
  | hasError (reason : String)
  deriving DecidableEq

namespace DownloadState

def toJson : DownloadState → Json
  | .downloading => .text "Downloading"
  | .paused => .text "Paused"
  | .completed => .text "Completed"
  | .waiting => .text "Waiting"
  | .hasError reason => .object [("HasError", .text reason)]

def bare : String → Except DecodeError DownloadState
  | "Downloading" => .ok .downloading
  | "Paused" => .ok .paused
  | "Completed" => .ok .completed
  | "Waiting" => .ok .waiting
  | _ => .error (.type .unitVariant "newtype variant")

def cases : Cases DownloadState where
  known := StatusFilter.names
  bare := bare
  applied
    | "HasError", room, t => do return .hasError (← Reader.string room t)
    | s, room, t => do
      Reader.unit room t
      bare s

def reader : Reader DownloadState := .cases cases

def label : DownloadState → String
  | .downloading => "downloading"
  | .paused => "paused"
  | .completed => "completed"
  | .waiting => "waiting"
  | .hasError _ => "error"

end DownloadState

structure DownloadStatus where
  total : UInt64
  downloaded : UInt64
  currentSpeed : Float
  downloadedTime : UInt64
  fileId : String
  remoteFileName : String
  downloadToLocalPath : String
  status : DownloadState

namespace DownloadStatus

def wordJson (n : UInt64) : Json := .number (.integer n.toNat)

def toJson (s : DownloadStatus) : Json :=
  .object [("total", wordJson s.total), ("downloaded", wordJson s.downloaded),
    ("current_speed", .number (.real s.currentSpeed)),
    ("downloaded_time", wordJson s.downloadedTime), ("file_id", .text s.fileId),
    ("remote_file_name", .text s.remoteFileName),
    ("download_to_local_path", .text s.downloadToLocalPath), ("status", s.status.toJson)]

def record : Record DownloadStatus where
  name := "DownloadStatus"
  fields := [.of "total" Reader.word, .of "downloaded" Reader.word,
    .of "current_speed" Reader.real, .of "downloaded_time" Reader.word,
    .of "file_id" Reader.string, .of "remote_file_name" Reader.string,
    .of "download_to_local_path" Reader.string, .of "status" DownloadState.reader]
  short := false
  build room fs := do
    let total ← fs.required "total" Reader.word room
    let downloaded ← fs.required "downloaded" Reader.word room
    let currentSpeed ← fs.required "current_speed" Reader.real room
    let downloadedTime ← fs.required "downloaded_time" Reader.word room
    let fileId ← fs.required "file_id" Reader.string room
    let remoteFileName ← fs.required "remote_file_name" Reader.string room
    let downloadToLocalPath ← fs.required "download_to_local_path" Reader.string room
    let status ← fs.required "status" DownloadState.reader room
    return { total, downloaded, currentSpeed, downloadedTime, fileId, remoteFileName,
             downloadToLocalPath, status }

def reader : Reader DownloadStatus := .record record

def percentComplete (s : DownloadStatus) : Float :=
  if s.total = 0 then (if s.status = .completed then 100 else 0)
  else
    let percent := s.downloaded.toFloat / s.total.toFloat * 100
    if percent < 0 then 0 else if 100 < percent then 100 else percent

end DownloadStatus

structure StatusResponse where
  envelope : Envelope := .success
  downloads : List DownloadStatus := []

namespace StatusResponse

def downloadsJson (ds : List DownloadStatus) : Json := .list (ds.map DownloadStatus.toJson)

def toJson (r : StatusResponse) : Json :=
  .object (r.envelope.members ++ [("download_status", downloadsJson r.downloads)])

def flattened : Flattened (List DownloadStatus) Envelope StatusResponse where
  name := "MgetDownloadStatusResp"
  fields := [.of "download_status" (Reader.list DownloadStatus.reader)]
  own room fs := fs.withDefault "download_status" (Reader.list DownloadStatus.reader) [] room
  inner := Envelope.ofMembers
  build downloads envelope := ⟨envelope, downloads⟩

def reader : Reader StatusResponse := .flattened flattened

end StatusResponse
end DownloadClient.Api
