import DownloadClient.Json.Reader

/-! The status that every response of the backend carries: a code, zero for success, and a
message. -/

namespace DownloadClient.Api

open DownloadClient.Json

structure Envelope where
  code : Int32
  message : String
  deriving DecidableEq, Repr

namespace Envelope

def successCode : Int32 := 0

def failureCode : Int32 := -1

def success : Envelope := ⟨successCode, "success"⟩

def failure (message : String) : Envelope := ⟨failureCode, message⟩

def isSuccess (e : Envelope) : Bool := e.code == successCode

def members (e : Envelope) : List (String × Json) :=
  [("code", .number (.integer e.code.toInt)), ("message", .text e.message)]

def toJson (e : Envelope) : Json := .object e.members

def record : Record Envelope where
  name := "BaseResp"
  fields := [.of "code" Reader.int32, .of "message" Reader.string]
  short := false
  build room fs := do
    let code ← fs.required "code" Reader.int32 room
    let message ← fs.required "message" Reader.string room
    return ⟨code, message⟩

def reader : Reader Envelope := .record record

def gather (code : Option Int32) (message : Option String) :
    List (String × Json) → Except DecodeError Envelope
  | [] =>
    match code, message with
    | some code, some message => .ok ⟨code, message⟩
    | none, _ => .error (.missing "code")
    | some _, none => .error (.missing "message")
  | (name, x) :: rest =>
    if name = "code" then
      match code with
      | some _ => .error (.duplicate "code")
      | none => do
        let c ← x.shape.int32
        gather (some c) message rest
    else if name = "message" then
      match message with
      | some _ => .error (.duplicate "message")
      | none => do
        let m ← x.shape.string
        gather code (some m) rest
    else gather code message rest

def ofMembers (ms : List (String × Json)) : Except DecodeError Envelope := gather none none ms

/-- The code of an error body: that of a failure unless it is an integer of 32 bits. -/
def codeOf : Option Json → Int32
  | some x =>
    match x.shape.int32 with
    | .ok c => c
    | .error _ => failureCode
  | none => failureCode

def ofErrorBody? (body : Json) : Option Envelope :=
  match body.get? "message" with
  | some (.text m) => some ⟨codeOf (body.get? "code"), m⟩
  | _ => none

end Envelope
end DownloadClient.Api
