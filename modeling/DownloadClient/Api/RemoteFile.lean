import DownloadClient.Api.Envelope
import DownloadClient.Text.Blank

namespace DownloadClient.Api

open DownloadClient.Json

structure ListRequest where
  path : String
  deriving DecidableEq

namespace ListRequest

def toJson (r : ListRequest) : Json := .object [("path", .text r.path)]

def record : Record ListRequest where
  name := "RemoteListReq"
  fields := [.of "path" Reader.string]
  short := false
  build room fs := do return ⟨← fs.required "path" Reader.string room⟩

def reader : Reader ListRequest := .record record

end ListRequest

/-- A file or folder of the remote drive. What the drive leaves out is empty. -/
structure RemoteFile where
  kind : String := ""
  id : String := ""
  parentId : String := ""
  name : String := ""
  size : String := ""
  fileExtension : String := ""
  mimeType : String := ""
  createdTime : String := ""
  modifiedTime : String := ""
  phase : String := ""
  deriving DecidableEq

namespace RemoteFile

def fieldNames : List String :=
  ["kind", "id", "parent_id", "name", "size", "file_extension", "mime_type", "created_time",
    "modified_time", "phase"]

def toJson (f : RemoteFile) : Json :=
  .object [("kind", .text f.kind), ("id", .text f.id), ("parent_id", .text f.parentId),
    ("name", .text f.name), ("size", .text f.size), ("file_extension", .text f.fileExtension),
    ("mime_type", .text f.mimeType), ("created_time", .text f.createdTime),
    ("modified_time", .text f.modifiedTime), ("phase", .text f.phase)]

def record : Record RemoteFile where
  name := "RemoteFile"
  fields := fieldNames.map (Field.of · Reader.string)
  short := true
  build room fs := do
    let text (name : String) := fs.withDefault name Reader.string "" room
    return { kind := ← text "kind", id := ← text "id", parentId := ← text "parent_id",
             name := ← text "name", size := ← text "size",
             fileExtension := ← text "file_extension", mimeType := ← text "mime_type",
             createdTime := ← text "created_time", modifiedTime := ← text "modified_time",
             phase := ← text "phase" }

def reader : Reader RemoteFile := .record record

def isFolder (f : RemoteFile) : Bool := f.kind == "drive#folder"

def word? (s : List Char) : Option UInt64 :=
  let ds := match s with
    | '+' :: ds => ds
    | ds => ds
  if ds.isEmpty ∨ ¬ ds.all Text.isDigit then none
  else if Text.ofDecimal ds < Nat.pow 2 64 then some (UInt64.ofNat (Text.ofDecimal ds))
  else none

def sizeBytes? (f : RemoteFile) : Option UInt64 := word? (Text.trim f.size.toList)

end RemoteFile

structure ListResponse where
  envelope : Envelope := .success
  files : List RemoteFile := []
  deriving DecidableEq

namespace ListResponse

def filesJson (files : List RemoteFile) : Json := .list (files.map RemoteFile.toJson)

def toJson (r : ListResponse) : Json :=
  .object (r.envelope.members ++ [("files", filesJson r.files)])

def flattened : Flattened (List RemoteFile) Envelope ListResponse where
  name := "RemoteListResp"
  fields := [.of "files" (Reader.list RemoteFile.reader)]
  own room fs := fs.withDefault "files" (Reader.list RemoteFile.reader) [] room
  inner := Envelope.ofMembers
  build files envelope := ⟨envelope, files⟩

def reader : Reader ListResponse := .flattened flattened

end ListResponse
end DownloadClient.Api
