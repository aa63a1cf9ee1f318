import DownloadClient.Api.Envelope
import DownloadClient.Text.Blank
import DownloadClient.Web.Address

namespace DownloadClient.Client

open DownloadClient.Api DownloadClient.Json DownloadClient.Text DownloadClient.Web

inductive SetupError
  | endpoint (raw : String) (reason : AddressError)
  | token
  /-- no request can be sent to the address -/
  | address (url : String)
  | other (detail : String)
  deriving DecidableEq

def SetupError.detail : SetupError → String
  | .endpoint raw reason => "invalid endpoint '" ++ raw ++ "': " ++ reason.message
  | .token => "access token contains invalid header characters"
  | .address url => "builder error for url (" ++ url ++ ")"
  | .other detail => detail

inductive Cause
  | setup (e : SetupError)
  | noResponse
  | server (code : Int32) (message : String)
  | status (code : Nat) (body : Option Envelope)
  | decode (e : DecodeFailure)

structure CallError where
  operation : String
  cause : Cause

namespace CallError

def signed (n : Int) : String := String.ofList (signedDecimal n)

def transport (status : Nat) : String := "request failed with status code " ++ signed status

def describe (e : CallError) : String :=
  match e.cause with
  | .setup s => "request setup failed for " ++ e.operation ++ ": " ++ s.detail
  | .noResponse => "no response received for " ++ e.operation
  | .server code message =>
    e.operation ++ " rejected by server (code " ++ signed code.toInt ++ "): " ++ message
  | .status code _ => transport code
  | .decode d => "failed to decode " ++ e.operation ++ " response: " ++ d.message

def nonBlank? (s : String) : Option String := if blank s then none else some (trimmed s)

def noResponseMessage : String := "No response received from server"

def setupMessage : String := "Error in request setup"

def message (e : CallError) : String :=
  match e.cause with
  | .setup _ => setupMessage
  | .noResponse => noResponseMessage
  | .server code message =>
    (nonBlank? message).getD ("server reported error code " ++ signed code.toInt)
  | .status code body => (body.bind fun b => nonBlank? b.message).getD (transport code)
  | .decode d => (nonBlank? d.message).getD "invalid response body"

end CallError
end DownloadClient.Client
