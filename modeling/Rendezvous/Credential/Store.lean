/-
`CredentialStore`: the token pair of the session, on top of a backend.

The two tokens are stored and removed in one request each, so the backend cannot be left with half a
pair. A token that cannot be read counts as absent and the reason is only logged; a failure to store
or to remove is logged and handed to the caller as well.

If a thread panicked while it held the lock of the store, the store is poisoned: from then on it
reads as empty and refuses every write.
-/
import Rendezvous.Credential.Vault

set_option autoImplicit false

namespace Rendezvous.Credential

/-- `TokenKind`: one of the two tokens of a session. -/
inductive Token
  | access
  | refresh
deriving Repr, DecidableEq

namespace Token

/-- The key of a token in the backend. The keys are part of the file format: a file written by
another version of the program is found under the same two names. -/
def key : Token → String
  | access => "com.zoekdeware.accessToken"
  | refresh => "com.zoekdeware.refreshToken"

/-- The name of a token in log records. -/
def name : Token → String
  | access => "Access"
  | refresh => "Refresh"

end Token

/-- The log records of the store. -/
inductive Notice
  | unreadable (t : Token) (why : Failure)
  | locked (t : Token)
  | notStored (why : Failure)
  | notCleared (why : Failure)

/-- `CredentialStore`, over any backend. -/
structure Store (σ : Type := Vault) where
  vault : σ
  /-- whether a thread panicked while it held the lock -/
  poisoned : Bool := false

namespace Store

variable {σ : Type} [Storage σ]

/-- `CredentialStore::get`. An error of the backend becomes an absent token and a log record: the
caller cannot do anything about it, and a session without a token is one that has to log in
again. -/
def token (s : Store σ) (t : Token) : Option String × List Notice :=
  if s.poisoned then (none, [.locked t])
  else
    match Storage.get s.vault t.key with
    | .ok value => (value, [])
    | .error why => (none, [.unreadable t why])

/-- The log records of a write: one if it failed, none otherwise. -/
def noticesOf (note : Failure → Notice) : Except Failure Unit → List Notice
  | .ok () => []
  | .error why => [note why]

/-- `CredentialStore::store`. Both tokens go into one `set_many`. -/
def save (s : Store σ) (access refresh : String) :
    Store σ × Except Failure Unit × List Notice :=
  if s.poisoned then (s, .error .poisoned, [])
  else
    let r := Storage.putAll s.vault [(Token.access.key, access), (Token.refresh.key, refresh)]
    ({ s with vault := r.1 }, r.2, noticesOf .notStored r.2)

/-- `CredentialStore::clear`. Both tokens go into one `delete_many`. -/
def clear (s : Store σ) : Store σ × Except Failure Unit × List Notice :=
  if s.poisoned then (s, .error .poisoned, [])
  else
    let r := Storage.eraseAll s.vault [Token.access.key, Token.refresh.key]
    ({ s with vault := r.1 }, r.2, noticesOf .notCleared r.2)

/-- The store of the next start of the program over the same backend. The lock is a new one, so the
store is not poisoned any more. -/
def reopened (s : Store) : Store :=
  { vault := { medium := s.vault.medium.reopened } }

end Store

end Rendezvous.Credential
