/-
`StorageError`: why credentials could not be read or written.

A failure of the file system is known here by its kind, with the wording that the operating system
gives it, because the wording is part of what a user is shown. A failure put in its place by a test
has a wording of its own.
-/
import Rendezvous.Json.Fault

set_option autoImplicit false

namespace Rendezvous.Credential

/-- A failure of the file system: the four kinds that the steps of `FileStorage` can run into, and a
made-up one that consists of its wording. -/
inductive DiskFault
  | notFound
  | fileExists
  | notADirectory
  | isADirectory
  /-- a complaint in words -/
  | told (text : String)
deriving Repr, DecidableEq

/-- The wording of a complaint. -/
def DiskFault.message : DiskFault → String
  | notFound => "No such file or directory (os error 2)"
  | fileExists => "File exists (os error 17)"
  | notADirectory => "Not a directory (os error 20)"
  | isADirectory => "Is a directory (os error 21)"
  | told text => text

/-- `StorageError`, one constructor per variant. -/
inductive Failure
  | disk (fault : DiskFault)
  /-- the bytes of the file are not a JSON object of texts (`Corrupt`) -/
  | corrupt (e : Json.DecodeError)
  /-- the platform names no data directory (`NoDataDir`) -/
  | noPlace
  /-- a thread panicked while it held the lock (`LockPoisoned`) -/
  | poisoned

/-- The wording of a failure. It becomes part of the error that a controller publishes, so it is
text that a user reads. -/
def Failure.message : Failure → String
  | disk fault => "Storage I/O error: " ++ fault.message
  | corrupt e => "Corrupt credential file: " ++ e.message
  | noPlace => "No data directory available for credential storage"
  | poisoned => "Credential storage lock poisoned"

end Rendezvous.Credential
