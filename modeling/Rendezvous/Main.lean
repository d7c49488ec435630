/-
`main`: the terminal client as a program.

What a line leads to is decided in `Terminal.Console`. Here lines are read and texts are printed,
and the credential directory is looked up on the disk before a line is carried out and brought up to
date behind it: the file is written under its temporary name, closed, made private and then renamed.
No connection to a service is built in, so every request goes unanswered.
-/
import Rendezvous.Terminal.Console
import Std.Time.DateTime.Timestamp

set_option autoImplicit false

namespace Rendezvous.Terminal

open Credential (Directory Link Node)

/-! ## The directory on the disk -/

/-- The file with the secrets, in a directory. -/
def mainFile (path : String) : String := path ++ "/credentials.json"

/-- The temporary file, in a directory. -/
def temporaryFile (path : String) : String := path ++ "/credentials.tmp"

/-- The complaint that an error of the disk amounts to. -/
def faultOf : IO.Error → Credential.DiskFault
  | .noFileOrDirectory .. => .notFound
  | .alreadyExists .. => .fileExists
  | .inappropriateType .. => .notADirectory
  | e => .told (toString e)

/-- Make the directory, with the directories on the way to it, and make it private. -/
def prepare (path : String) : IO (Except Credential.Failure Unit) := do
  try
    try IO.FS.createDir path
    catch
      | .alreadyExists .. => IO.FS.createDirAll path
      | .noFileOrDirectory .. => IO.FS.createDirAll path
      | e => throw e
    IO.setAccessRights path { user := { read := true, write := true, execution := true } }
    return .ok ()
  catch e => return .error (.disk (faultOf e))

/-- What stands under the name of the file, and the file itself. -/
def lookUp (path : String) : IO Directory := do
  try
    let content ← IO.FS.readBinFile (mainFile path)
    return {
      Directory.empty with
      nodes := [⟨Directory.privateFileMode, content.toList⟩]
      main := some (.file 0) }
  catch
    | .noFileOrDirectory .. => return .empty
    | _ => return { Directory.empty with main := some (.folder Directory.commonMode) }

/-- Replace the file on the disk. -/
def replaceFile (path : String) (content : List UInt8) : IO Unit := do
  IO.FS.writeBinFile (temporaryFile path) ⟨content.toArray⟩
  IO.setAccessRights (temporaryFile path) { user := { read := true, write := true } }
  IO.FS.rename (temporaryFile path) (mainFile path)

/-- The content of the file that a client has, if its secrets are in a directory. -/
def contentOf (a : App) : Option (List UInt8) :=
  match a.client.store.vault.medium with
  | .directory d => (d.file? d.main).map Node.content
  | .memory _ => none

/-- Let a client act on the directory as it is on the disk, and bring the disk up to date. -/
def onDisk {α : Type} (path : String) (act : App → App × α) (a : App) : IO (App × α) := do
  let d ← lookUp path
  let found : App := { a with traffic.client.store.vault.medium := .directory d }
  let r := act found
  match contentOf r.1 with
  | some content =>
    if contentOf found ≠ some content then replaceFile path content
  | none => pure ()
  return r

/-- Where the directory is unless the options say otherwise. -/
def usualPath : IO (Option String) := do
  let data ← IO.getEnv "XDG_DATA_HOME"
  let home ← IO.getEnv "HOME"
  let inHome := home.map (· ++ "/.local/share")
  let base := match data with
    | some path => if path.startsWith "/" then some path else inHome
    | none => inHome
  return base.map (· ++ "/zoekdeware")

/-! ## The session -/

/-- A service that gives no answer. -/
def silent : Service := fun _ => .error (.unanswered "no connection")

/-- The day that it is. -/
def currentDay : IO Time.Date := do
  let now ← Std.Time.Timestamp.now
  return .ofDays (now.toSecondsSinceUnixEpoch.val / 86400)

/-- The next line of the input, with its end; empty where the input ends. -/
partial def readLine (input : IO.FS.Stream) (line : ByteArray) : IO (List UInt8) := do
  let next ← input.read 1
  if next.isEmpty then return line.toList
  let line := line ++ next
  if next.toList = [lineFeed] then return line.toList else readLine input line

/-- Print a text at once. -/
def say (text : String) : IO Unit := do
  let output ← IO.getStdout
  output.putStr text
  output.flush

/-- Report why the session broke off. -/
def breakOff (b : Breakdown) : IO UInt32 := do
  IO.eprint b.report
  return 1

/-- React to line after line. -/
partial def converseLive (path : String) (a : App) : IO UInt32 := do
  say promptText
  let line ← readLine (← IO.getStdin) .empty
  if line.isEmpty then return 0
  match ← onDisk path (react silent line) a with
  | (a, .prints text) =>
    say text
    converseLive path a
  | (a, .passes) => converseLive path a
  | (_, .leaves) => return 0
  | (_, .breaks b) => breakOff b

/-- Log in if the options ask for it, and react to line after line. -/
def session (path : String) (o : Options) : IO UInt32 := do
  let a := start o (← lookUp path) (← currentDay)
  match o.email with
  | none =>
    if a.authenticated then say "Resuming stored session\n"
    say welcome
    converseLive path a
  | some email =>
    let line ← match o.password with
      | some _ => pure []
      | none => do
        say passwordPrompt
        readLine (← IO.getStdin) .empty
    match (findPassword o.password line).2.1 with
    | .error b => breakOff b
    | .ok password =>
      let (a, said) ← onDisk path (perform silent (.logIn ⟨email, password⟩)) a
      say ((said.map (· ++ "\n")).getD "" ++ welcome)
      converseLive path a

end Rendezvous.Terminal

open Rendezvous Rendezvous.Terminal

/-- Start the client with the arguments of the command line. -/
def main (arguments : List String) : IO UInt32 := do
  if Options.asksForHelp arguments then
    say Options.helpText
    return 0
  match Options.parse arguments with
  | .error why => breakOff (.options why)
  | .ok o =>
    match o.directory.or (← usualPath) with
    | none => breakOff (.storage .noPlace)
    | some path =>
      match ← prepare path with
      | .error why => breakOff (.storage why)
      | .ok () => session path o
