/-
`FileStorage`: the directory with the credential file, and the steps of `write_map`.

The directory holds two names, `credentials.json` and `credentials.tmp`. A name leads to a node, and
it is the node that has content and mode: a writer that has opened a file keeps writing to its node
whatever happens to the name. That is why replacing the file by a rename is safe against a reader
(the name leads from one complete node to another in a single step), and why two writers at once are
not: both open the node under the one temporary name.

Any other use of the directory (a directory that stands where one of the files belongs, a file that
was left behind, modes that were changed) is a state of this structure too, so the theorems speak
about those as well.
-/
import Rendezvous.Credential.Entries
import Rendezvous.Credential.Failure

set_option autoImplicit false

namespace Rendezvous.Credential

/-- A file, apart from its name. -/
structure Node where
  /-- the permission bits -/
  mode : Nat
  content : List UInt8
deriving Repr, DecidableEq

/-- What a name leads to. -/
inductive Link
  | file (node : Nat)
  | folder (mode : Nat)
deriving Repr, DecidableEq

/-- The directory of `FileStorage` with everything in it that the storage looks at. -/
structure Directory where
  /-- the permission bits -/
  mode : Nat
  /-- every file that there has been, by number; one without a name stays, since a writer may have
  it open -/
  nodes : List Node
  /-- what stands under `credentials.json` -/
  main : Option Link
  /-- what stands under `credentials.tmp` -/
  temp : Option Link
deriving Repr, DecidableEq

namespace Directory

/-- `DIR_MODE`: only the owner may enter. -/
def privateMode : Nat := 0o700

/-- `FILE_MODE`: only the owner may read or write. -/
def privateFileMode : Nat := 0o600

/-- The mode of a file that another program makes. -/
def commonFileMode : Nat := 0o644

/-- The mode of a directory that another program makes. -/
def commonMode : Nat := 0o755

/-- A new directory. -/
def empty : Directory := ⟨privateMode, [], none, none⟩

/-! ## Nodes -/

/-- The file of a link. -/
def file? (d : Directory) : Option Link → Option Node
  | some (.file n) => d.nodes[n]?
  | _ => none

/-- Change the node with a number. -/
def changeNode (d : Directory) (n : Nat) (f : Node → Node) : Directory :=
  { d with nodes := d.nodes.modify n f }

/-- Write at the start of a node. What the node held beyond the data stays, which matters as soon as
a second writer has the same node open. -/
def overwrite (data : List UInt8) (node : Node) : Node :=
  { node with content := data ++ node.content.drop data.length }

/-! ## Steps -/

/-- `fs::read` on the credential file; `none` if there is no such file, which is not a failure. -/
def read (d : Directory) : Except DiskFault (Option (List UInt8)) :=
  match d.main with
  | none => .ok none
  | some (.folder _) => .error .isADirectory
  | some (.file n) => .ok (some ((d.nodes[n]?).elim [] Node.content))

/-- The `open` of `create_private_file`: create or truncate. The answer is the number of the node. A
file that was left behind is emptied and keeps its mode; a new one is private from the start. -/
def openTemp (d : Directory) : Except DiskFault (Nat × Directory) :=
  match d.temp with
  | some (.folder _) => .error .isADirectory
  | some (.file n) => .ok (n, d.changeNode n fun node => { node with content := [] })
  | none =>
    let n := d.nodes.length
    .ok (n, { d with nodes := d.nodes ++ [⟨privateFileMode, []⟩], temp := some (.file n) })

/-- The `set_permissions` of `create_private_file`. It is there for a file that was left behind:
`open` does not touch the mode of a file that exists. -/
def restrict (d : Directory) (n : Nat) : Directory :=
  d.changeNode n fun node => { node with mode := privateFileMode }

/-- `write_all` on the open file. -/
def write (d : Directory) (n : Nat) (data : List UInt8) : Directory :=
  d.changeNode n (overwrite data)

/-- `fs::rename`: the credential file becomes the node of the temporary one, which loses its own
name. It fails if there is no temporary file any more, as happens when another writer has renamed
it. -/
def rename (d : Directory) : Except DiskFault Directory :=
  match d.main, d.temp with
  | _, none => .error .notFound
  | some (.folder _), some (.file _) => .error .isADirectory
  | _, some link => .ok { d with main := some link, temp := none }

/-- `write_map` without interference: open, restrict, write and rename. Whatever step fails, the
name of the credential file still leads to where it led before. -/
def replace (d : Directory) (data : List UInt8) : Directory × Except DiskFault Unit :=
  match d.openTemp with
  | .error e => (d, .error e)
  | .ok (n, opened) =>
    -- the mode is set before a byte of the map is in the file, so the map is never readable by
    -- others
    let written := (opened.restrict n).write n data
    match written.rename with
    | .error e => (written, .error e)
    | .ok renamed => (renamed, .ok ())

/-! ## Entries -/

/-- `read_map`. -/
def entries (d : Directory) : Except Failure Entries :=
  match d.read with
  | .error e => .error (.disk e)
  | .ok none => .ok []
  | .ok (some content) => (Entries.ofBytes content).mapError .corrupt

/-- `update`: read the map, change it, and write it unless the change says that there is nothing to
write. In that case the file is not even created. -/
def update (f : Entries → Option Entries) (d : Directory) : Directory × Except Failure Unit :=
  match d.entries with
  | .error e => (d, .error e)
  | .ok before =>
    match f before with
    | none => (d, .ok ())
    | some after =>
      let r := d.replace (Entries.toBytes after)
      (r.1, r.2.mapError .disk)

/-- `set_many`: always one write. -/
def putAll (added : List (String × String)) : Directory → Directory × Except Failure Unit :=
  update fun before => some (before.putAll added)

/-- `delete_many`: one write if at least one of the keys is there, none otherwise. -/
def eraseAll (keys : List String) : Directory → Directory × Except Failure Unit :=
  update fun before => if before.holdsAny keys then some (before.eraseAll keys) else none

end Directory

/-! ## Opening -/

/-- What stands at the path that `open_in` is given. -/
inductive Site
  | nothing
  | directory (d : Directory)
  /-- a file stands in its place -/
  | file
  /-- a file stands in the place of a directory on the way to it -/
  | beneathFile

/-- `open_in`: make the directory and those above it, and give it its mode. An existing directory
gets the mode too, so it is private from then on. -/
def Site.open : Site → Except Failure Directory
  | nothing => .ok .empty
  | directory d => .ok { d with mode := Directory.privateMode }
  | file => .error (.disk .fileExists)
  | beneathFile => .error (.disk .notADirectory)

/-! ## What others do to the directory -/

namespace Directory

/-- Another program writes a file under a name. The mode of an existing file stays. -/
def planted (d : Directory) (link : Option Link) (content : List UInt8) :
    Directory × Option Link :=
  match link with
  | some (.folder mode) => (d, some (.folder mode))
  | some (.file n) => (d.changeNode n fun node => { node with content := content }, link)
  | none =>
    ({ d with nodes := d.nodes ++ [⟨commonFileMode, content⟩] }, some (.file d.nodes.length))

/-- Another program writes the credential file. -/
def plantMain (d : Directory) (content : List UInt8) : Directory :=
  let r := d.planted d.main content
  { r.1 with main := r.2 }

/-- Another program leaves a temporary file behind. -/
def plantTemp (d : Directory) (content : List UInt8) : Directory :=
  let r := d.planted d.temp content
  { r.1 with temp := r.2 }

/-- Another program removes the credential file. -/
def removeMain (d : Directory) : Directory :=
  match d.main with
  | some (.file _) => { d with main := none }
  | _ => d

/-- A directory is made where the credential file belongs, if nothing stands there. -/
def blockMain (d : Directory) : Directory :=
  { d with main := d.main.or (some (.folder commonMode)) }

/-- A directory is made where the temporary file belongs, if nothing stands there. This is how a
test makes a write fail. -/
def blockTemp (d : Directory) : Directory :=
  { d with temp := d.temp.or (some (.folder commonMode)) }

/-- The directory of `blockTemp` is taken away again. -/
def unblockTemp (d : Directory) : Directory :=
  match d.temp with
  | some (.folder _) => { d with temp := none }
  | _ => d

/-- The permission bits of a link. -/
def modeOf (d : Directory) : Option Link → Option Nat
  | none => none
  | some (.folder mode) => some mode
  | some (.file n) => (d.nodes[n]?).map Node.mode

end Directory

end Rendezvous.Credential
