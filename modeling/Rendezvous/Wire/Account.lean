/-
`CredentialsRequest`, `RefreshRequest` and `AuthResponse`: what opens a session and what comes back.

Registering and logging in send an address and a password, renewing a session sends the refresh
token, and all three are answered with a token pair. The expiry of the pair is only advice: nothing
in the client acts on it. `ErrorEnvelope` is here too, since it is read wherever a response is.
-/
import Rendezvous.Wire.Instant

set_option autoImplicit false

namespace Rendezvous.Wire

open Json (Codec Field Fields)

/-- `CredentialsRequest`. -/
structure Credentials where
  email : String
  password : String
deriving Repr, DecidableEq

/-- `RefreshRequest`. -/
structure Renewal where
  refreshToken : String
deriving Repr, DecidableEq

/-- `AuthResponse`. -/
structure TokenPair where
  accessToken : String
  refreshToken : String
  /-- the expiry of the pair, in seconds from 1970, as the server has it: any word of 64 bits -/
  expiresAt : Int64
deriving DecidableEq

/-- `AuthResponse::expiry`. There is none where the seconds lead out of the years that a timestamp
can hold, and that is not a failure. -/
def TokenPair.expiry (t : TokenPair) : Option Time.Timestamp :=
  Time.Timestamp.of? t.expiresAt.toInt 0

/-- `ErrorEnvelope`: what the server says when it turns a request down. -/
structure Complaint where
  message : String
deriving Repr, DecidableEq

/-- Both members are required, and members with other names are ignored, as in every record here. -/
def Credentials.codec : Codec Credentials :=
  .record "CredentialsRequest"
    (.more (.required "email" .text) <| .more (.required "password" .text) .done)
    (fun (email, password, ()) => ⟨email, password⟩)
    (fun c => (c.email, c.password, ()))

def Renewal.codec : Codec Renewal :=
  .record "RefreshRequest" (.more (.required "refresh_token" .text) .done)
    (fun (refreshToken, ()) => ⟨refreshToken⟩)
    (fun r => (r.refreshToken, ()))

def TokenPair.codec : Codec TokenPair :=
  .record "AuthResponse"
    (.more (.required "access_token" .text) <| .more (.required "refresh_token" .text) <|
      .more (.required "expires_at" .i64) .done)
    (fun (accessToken, refreshToken, expiresAt, ()) => ⟨accessToken, refreshToken, expiresAt⟩)
    (fun t => (t.accessToken, t.refreshToken, t.expiresAt, ()))

def Complaint.codec : Codec Complaint :=
  .record "ErrorEnvelope" (.more (.required "error" .text) .done)
    (fun (message, ()) => ⟨message⟩)
    (fun c => (c.message, ()))

end Rendezvous.Wire
