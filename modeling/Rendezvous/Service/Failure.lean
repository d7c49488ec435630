/-
`ApiError`: what can go wrong between the client and the service, and how the user is told.

The service may explain a refusal in the body of its response. If the body is such an explanation
(`ErrorEnvelope`) and its message is not blank, it is what the user sees; in every other case the
user sees the client's own wording.
-/
import Rendezvous.Text.Blank
import Rendezvous.Web.Http
import Rendezvous.Wire.Account

set_option autoImplicit false

namespace Rendezvous.Service

/-- `ApiError`, one constructor per variant. -/
inductive Failure
  /-- the URL could not be parsed (`InvalidUrl`) -/
  | badAddress (detail : String)
  /-- the transport brought no response (`InvalidResponse`) -/
  | unanswered (detail : String)
  /-- a status that is not 200 to 299 (`Http`), with the body, which may say why -/
  | refused (status : UInt16) (body : List UInt8)
  /-- the body of a success is not of the expected shape (`Decoding`) -/
  | undecodable (e : Json.DecodeError)
  /-- the body of the request could not be written (`Encoding`) -/
  | unencodable (e : Json.DecodeError)

namespace Failure

/-- The client's own wording, as `Display` writes it. -/
def message : Failure → String
  | badAddress detail => "Invalid URL: " ++ detail
  | unanswered detail => "Invalid response from server: " ++ detail
  | refused status _ => "HTTP error: " ++ toString status.toNat
  | undecodable e => "Decoding error: " ++ e.message
  | unencodable e => "Failed to encode request body: " ++ e.message

/-- `status`: the status of a refusal. -/
def status? : Failure → Option UInt16
  | refused status _ => some status
  | _ => none

/-- `server_message`: what the service said about a refusal. A body that is not an `ErrorEnvelope`,
and one whose message is blank, count as nothing said. -/
def explanation? : Failure → Option String
  | refused _ body =>
    match Wire.Complaint.codec.decode body with
    | .ok complaint =>
      if (Text.trim complaint.message.toList).isEmpty then none else some complaint.message
    | .error _ => none
  | _ => none

/-- `user_message`: what the controllers publish as their error. -/
def userMessage (f : Failure) : String :=
  f.explanation?.getD f.message

end Failure

end Rendezvous.Service
