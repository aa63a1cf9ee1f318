import DownloadClient.Api.Login
import DownloadClient.Api.RemoteFile
import DownloadClient.Api.Download
import DownloadClient.Log.Entry

/-! The operations of the backend, with the types of their requests and responses. -/

namespace DownloadClient.Client

open DownloadClient.Api DownloadClient.Json

inductive Operation
  | login
  | remoteList
  | downloadBegin
  | downloadPause
  | downloadResume
  | downloadRemove
  | downloadStatus
  deriving DecidableEq, Repr

namespace Operation

def name : Operation → String
  | .login => "login"
  | .remoteList => "remote_list"
  | .downloadBegin => "download_begin"
  | .downloadPause => "download_pause"
  | .downloadResume => "download_resume"
  | .downloadRemove => "download_remove"
  | .downloadStatus => "mget_download_status"

def path (op : Operation) : String := "/api/" ++ op.name

abbrev Request : Operation → Type
  | .login => LoginRequest
  | .remoteList => ListRequest
  | .downloadBegin => BeginRequest
  | .downloadPause => FileRequest
  | .downloadResume => FileRequest
  | .downloadRemove => RemoveRequest
  | .downloadStatus => StatusRequest

abbrev Response : Operation → Type
  | .login => LoginResponse
  | .remoteList => ListResponse
  | .downloadBegin => Envelope
  | .downloadPause => Envelope
  | .downloadResume => Envelope
  | .downloadRemove => Envelope
  | .downloadStatus => StatusResponse

def requestJson : (op : Operation) → op.Request → Json
  | .login, r => LoginRequest.toJson r
  | .remoteList, r => ListRequest.toJson r
  | .downloadBegin, r => BeginRequest.toJson r
  | .downloadPause, r => FileRequest.toJson r
  | .downloadResume, r => FileRequest.toJson r
  | .downloadRemove, r => RemoveRequest.toJson r
  | .downloadStatus, r => StatusRequest.toJson r

def reader : (op : Operation) → Reader op.Response
  | .login => LoginResponse.reader
  | .remoteList => ListResponse.reader
  | .downloadBegin => Envelope.reader
  | .downloadPause => Envelope.reader
  | .downloadResume => Envelope.reader
  | .downloadRemove => Envelope.reader
  | .downloadStatus => StatusResponse.reader

def envelope : (op : Operation) → op.Response → Envelope
  | .login, r => LoginResponse.envelope r
  | .remoteList, r => ListResponse.envelope r
  | .downloadBegin, r => r
  | .downloadPause, r => r
  | .downloadResume, r => r
  | .downloadRemove, r => r
  | .downloadStatus, r => StatusResponse.envelope r

def spanFields : (op : Operation) → op.Request → Log.Fields
  | .login, _ => []
  | .remoteList, r => [("path", ListRequest.path r)]
  | .downloadBegin, r => [("file_id", BeginRequest.fileId r)]
  | .downloadPause, r => [("file_id", FileRequest.fileId r)]
  | .downloadResume, r => [("file_id", FileRequest.fileId r)]
  | .downloadRemove, r =>
    [("file_id", RemoveRequest.fileId r),
      ("need_remove_file", Log.Event.flag (RemoveRequest.needRemoveFile r))]
  | .downloadStatus, _ => []

end Operation

structure PerOperation (α : Type) where
  login : α
  remoteList : α
  downloadBegin : α
  downloadPause : α
  downloadResume : α
  downloadRemove : α
  downloadStatus : α
  deriving DecidableEq

namespace PerOperation

variable {α : Type}

def uniform (x : α) : PerOperation α := ⟨x, x, x, x, x, x, x⟩

def get (p : PerOperation α) : Operation → α
  | .login => p.login
  | .remoteList => p.remoteList
  | .downloadBegin => p.downloadBegin
  | .downloadPause => p.downloadPause
  | .downloadResume => p.downloadResume
  | .downloadRemove => p.downloadRemove
  | .downloadStatus => p.downloadStatus

def set (p : PerOperation α) : Operation → α → PerOperation α
  | .login, x => { p with login := x }
  | .remoteList, x => { p with remoteList := x }
  | .downloadBegin, x => { p with downloadBegin := x }
  | .downloadPause, x => { p with downloadPause := x }
  | .downloadResume, x => { p with downloadResume := x }
  | .downloadRemove, x => { p with downloadRemove := x }
  | .downloadStatus, x => { p with downloadStatus := x }

@[simp] theorem get_uniform (x : α) (op : Operation) : (uniform x).get op = x := by
  cases op <;> rfl

@[simp] theorem get_set_self (p : PerOperation α) (op : Operation) (x : α) :
    (p.set op x).get op = x := by
  cases op <;> rfl

theorem get_set_of_ne (p : PerOperation α) {op other : Operation} (h : other ≠ op) (x : α) :
    (p.set op x).get other = p.get other := by
  cases op <;> cases other <;> first | rfl | exact absurd rfl h

theorem get_set (p : PerOperation α) (op other : Operation) (x : α) :
    (p.set op x).get other = if other = op then x else p.get other := by
  by_cases h : other = op
  · simp [h]
  · simp [h, get_set_of_ne p h x]

end PerOperation
end DownloadClient.Client
