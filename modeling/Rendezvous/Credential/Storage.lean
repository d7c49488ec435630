/-
`SecureStorage`, as a class.

A backend keeps values under keys. It is asked for one value, to store several in one step, or to
remove several in one step, and it may refuse; what a request leaves behind is the next state of the
backend. `set` and `delete` are the cases of one entry. `CredentialStore` is written against these
three requests whatever answers them, so the theorems about it hold for every backend that keeps the
contract of the trait.
-/
import Rendezvous.Credential.Entries
import Rendezvous.Credential.Failure

set_option autoImplicit false

namespace Rendezvous.Credential

/-- `SecureStorage`. A key that is not there is no failure (`get` returns `Ok(None)`); an error is
kept for a backend that could not do what it was asked. -/
class Storage (σ : Type) where
  /-- the value under a name, if there is one -/
  get : σ → (key : String) → Except Failure (Option String)
  /-- store several values in one step (`set_many`): on an error none of them is stored -/
  putAll : σ → (added : List (String × String)) → σ × Except Failure Unit
  /-- remove several keys in one step (`delete_many`): on an error none of them is removed -/
  eraseAll : σ → (keys : List String) → σ × Except Failure Unit

/-- Memory keeps the entries themselves and never refuses. -/
instance : Storage Entries where
  get entries key := .ok (entries.get? key)
  putAll entries added := (entries.putAll added, .ok ())
  eraseAll entries keys := (entries.eraseAll keys, .ok ())

end Rendezvous.Credential
