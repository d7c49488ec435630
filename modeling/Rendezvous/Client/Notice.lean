/-
What the client logs.

The log is part of the behaviour that the program can be compared on, so its records are data here,
with their levels and their texts. No decision of the client depends on them.
-/
import Rendezvous.Credential.Store
import Rendezvous.Service.Failure

set_option autoImplicit false

namespace Rendezvous.Client

/-- The ways of getting tokens, which are the three callers of `request_tokens` and
`authenticate`. -/
inductive Admission
  | registration
  | login
  | renewal
deriving Repr, DecidableEq

/-- What notices call a way of getting tokens. -/
def Admission.name : Admission → String
  | .registration => "Registration"
  | .login => "Login"
  | .renewal => "Token refresh"

/-- How much a notice matters. -/
inductive Level
  | debug
  | info
  | warn
  | error
deriving Repr, DecidableEq

/-- What a record calls a level. -/
def Level.name : Level → String
  | .debug => "DEBUG"
  | .info => "INFO"
  | .warn => "WARN"
  | .error => "ERROR"

/-- A log record, by the place that writes it. The arguments are what is put into the text, so no
record can be written with a value that its place does not have. -/
inductive Notice
  | credential (n : Credential.Notice)
  | sending (m : Web.Method) (path : String)
  | refused (m : Web.Method) (path : String) (status : UInt16)
  | undecodable (m : Web.Method) (path : String) (e : Json.DecodeError)
  | resumed
  | tokensFailed (way : Admission) (why : Service.Failure)
  | tokensStored (way : Admission)
  | loggedOut
  | noCandidate
  | swipeFailed (candidateId : String) (why : Service.Failure)
  | matched (matchId : String)
  | fetchingAhead
  | candidatesLoaded (count : Nat)
  | candidatesFailed (why : Service.Failure)
  | matchesFailed (why : Service.Failure)
  | conversationsFailed (why : Service.Failure)
  | conversationFailed (conversationId : String) (why : Service.Failure)
  | sendingFailed (conversationId : String) (why : Service.Failure)
  | profileFailed (why : Service.Failure)

namespace Notice

/-- How much a notice of the token store matters. -/
def credentialLevel : Credential.Notice → Level
  | .unreadable .. | .locked _ => .warn
  | .notStored _ | .notCleared _ => .error

/-- The wording of a notice of the token store. -/
def credentialText : Credential.Notice → String
  | .unreadable t why => "Failed to read " ++ t.name ++ " token: " ++ why.message
  | .locked t => "Credential lock poisoned, treating " ++ t.name ++ " token as absent"
  | .notStored why => "Failed to store credentials: " ++ why.message
  | .notCleared why => "Failed to clear credentials: " ++ why.message

/-- How much a notice matters. -/
def level : Notice → Level
  | credential n => credentialLevel n
  | sending .. | noCandidate | fetchingAhead | candidatesLoaded _ => .debug
  | resumed | tokensStored _ | loggedOut | matched _ => .info
  | _ => .warn

/-- The wording of a notice. -/
def text : Notice → String
  | credential n => credentialText n
  | sending m path => m.name ++ " " ++ path
  | refused m path status =>
    m.name ++ " " ++ path ++ " failed with status " ++ toString status.toNat
  | undecodable m path e => "Failed to decode " ++ m.name ++ " " ++ path ++ ": " ++ e.message
  | resumed => "Resuming stored session"
  | tokensFailed way why => way.name ++ " failed: " ++ why.message
  | tokensStored way => way.name ++ " succeeded"
  | loggedOut => "Logged out"
  | noCandidate => "Swipe ignored, deck is empty"
  | swipeFailed id why => "Swipe on " ++ id ++ " failed: " ++ why.message
  | matched id => "New match " ++ id
  | fetchingAhead => "Prefetching next discovery page"
  | candidatesLoaded count => "Loaded " ++ toString count ++ " candidates"
  | candidatesFailed why => "Loading candidates failed: " ++ why.message
  | matchesFailed why => "Loading matches failed: " ++ why.message
  | conversationsFailed why => "Loading conversations failed: " ++ why.message
  | conversationFailed id why => "Loading conversation " ++ id ++ " failed: " ++ why.message
  | sendingFailed id why => "Sending to " ++ id ++ " failed: " ++ why.message
  | profileFailed why => "Profile request failed: " ++ why.message

/-- A record as it is printed: its level and its text. -/
def line (n : Notice) : String :=
  n.level.name ++ " " ++ n.text

end Notice

end Rendezvous.Client
