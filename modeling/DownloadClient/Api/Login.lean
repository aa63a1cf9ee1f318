import DownloadClient.Api.Envelope

namespace DownloadClient.Api

open DownloadClient.Json

structure LoginRequest where
  email : String
  password : String
  deriving DecidableEq

namespace LoginRequest

def toJson (r : LoginRequest) : Json :=
  .object [("email", .text r.email), ("password", .text r.password)]

def record : Record LoginRequest where
  name := "LoginReq"
  fields := [.of "email" Reader.string, .of "password" Reader.string]
  short := false
  build room fs := do
    let email ← fs.required "email" Reader.string room
    let password ← fs.required "password" Reader.string room
    return ⟨email, password⟩

def reader : Reader LoginRequest := .record record

def describe (r : LoginRequest) : String :=
  "LoginReq \x7b email: " ++ Text.quoted r.email ++ ", password: " ++ Text.quoted "********"
    ++ " \x7d"

end LoginRequest

structure LoginResponse where
  envelope : Envelope
  token : String
  deriving DecidableEq

namespace LoginResponse

def toJson (r : LoginResponse) : Json :=
  .object (r.envelope.members ++ [("token", .text r.token)])

def flattened : Flattened String Envelope LoginResponse where
  name := "LoginResp"
  fields := [.of "token" Reader.string]
  own room fs := fs.required "token" Reader.string room
  inner := Envelope.ofMembers
  build token envelope := ⟨envelope, token⟩

def reader : Reader LoginResponse := .flattened flattened

end LoginResponse
end DownloadClient.Api
