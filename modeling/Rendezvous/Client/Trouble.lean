/-
Why an operation could not be done, and what a person is told about it: `ClientError`.

There are two wordings. `message` is the one for the log, with the cause in it. `userMessage` is the
one that a screen shows: a failure of the service may bring a text of the server's own, and then
that is shown.
-/
import Rendezvous.Credential.Failure
import Rendezvous.Service.Failure

set_option autoImplicit false

namespace Rendezvous.Client

/-- `ClientError`: an error of the API, an error of the credential store, or an operation that the
session does not allow. -/
inductive Trouble
  | service (why : Service.Failure)
  | storage (why : Credential.Failure)
  /-- the session lacks what it takes; the text says what -/
  | precondition (text : String)

namespace Trouble

/-- The client's own wording. -/
def message : Trouble → String
  | service why => why.message
  | storage why => "Credential storage error: " ++ why.message
  | precondition text => text

/-- `ClientError::user_message`: what the `error` field of a screen is set to. Only an error of the
service has a wording of its own for that. -/
def userMessage : Trouble → String
  | service why => why.userMessage
  | t => t.message

end Trouble

/-- What `refresh` reports without a refresh token. -/
def noRefreshToken : Trouble :=
  .precondition "No refresh token stored"

end Rendezvous.Client
