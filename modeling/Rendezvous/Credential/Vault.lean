/-
The two backends, `MemoryStorage` and `FileStorage`, and outages put in front of them.

Both answer alike, which is what makes the one in memory fit for tests. For the time of an outage,
requests of a kind fail with a wording and touch nothing, as the failing backends in the tests of
`CredentialStore` and of the controllers do.
-/
import Rendezvous.Credential.Directory
import Rendezvous.Credential.Storage

set_option autoImplicit false

namespace Rendezvous.Credential

/-- One of the two backends. They are one type here because a scenario chooses between them while
the program runs. -/
inductive Medium
  | memory (entries : Entries)
  | directory (d : Directory)

namespace Medium

/-- The value under a name. -/
def get (m : Medium) (key : String) : Except Failure (Option String) :=
  match m with
  | memory entries => .ok (entries.get? key)
  | directory d => d.entries.map fun entries => Entries.get? entries key

/-- Put several values. -/
def putAll (m : Medium) (added : List (String × String)) : Medium × Except Failure Unit :=
  match m with
  | memory entries => (memory (entries.putAll added), .ok ())
  | directory d => let r := d.putAll added; (directory r.1, r.2)

/-- Take several values away. -/
def eraseAll (m : Medium) (keys : List String) : Medium × Except Failure Unit :=
  match m with
  | memory entries => (memory (entries.eraseAll keys), .ok ())
  | directory d => let r := d.eraseAll keys; (directory r.1, r.2)

/-- The backend of the next start of the program: the map in memory is gone, the file is still
there, and `open_in` has made its directory private again. -/
def reopened : Medium → Medium
  | memory _ => memory []
  | directory d => directory { d with mode := Directory.privateMode }

end Medium

instance : Storage Medium where
  get := Medium.get
  putAll := Medium.putAll
  eraseAll := Medium.eraseAll

/-- What fails for now: reads, writes or deletions, each with the wording of the failure. -/
structure Outage where
  reads : Option String := none
  writes : Option String := none
  deletes : Option String := none
deriving Repr, DecidableEq

/-- A backend together with its outage. The backend is a parameter, so what is proved about outages
holds in front of any of them. -/
structure Vault (μ : Type := Medium) where
  medium : μ
  outage : Outage := {}

namespace Vault

variable {μ : Type} [Storage μ]

/-- A failure with a given wording. It is a failure of the file system as far as the caller can
see. -/
def complaint (text : String) : Failure :=
  .disk (.told text)

/-- The value under a name. -/
def get (v : Vault μ) (key : String) : Except Failure (Option String) :=
  match v.outage.reads with
  | some text => .error (complaint text)
  | none => Storage.get v.medium key

/-- Put several values. -/
def putAll (v : Vault μ) (added : List (String × String)) : Vault μ × Except Failure Unit :=
  match v.outage.writes with
  | some text => (v, .error (complaint text))
  | none => let r := Storage.putAll v.medium added; ({ v with medium := r.1 }, r.2)

/-- Put a value. -/
def put (v : Vault μ) (key value : String) : Vault μ × Except Failure Unit :=
  v.putAll [(key, value)]

/-- Take several values away. -/
def eraseAll (v : Vault μ) (keys : List String) : Vault μ × Except Failure Unit :=
  match v.outage.deletes with
  | some text => (v, .error (complaint text))
  | none => let r := Storage.eraseAll v.medium keys; ({ v with medium := r.1 }, r.2)

/-- Take a value away. -/
def erase (v : Vault μ) (key : String) : Vault μ × Except Failure Unit :=
  v.eraseAll [key]

instance : Storage (Vault μ) where
  get := get
  putAll := putAll
  eraseAll := eraseAll

end Vault

end Rendezvous.Credential
