/-
The map that `MemoryStorage` and `FileStorage` hold, and its form as a file.

The file is a map ordered by key and written as one JSON object, so equal maps have equal bytes. A
sorted list of pairs stands for it here; the map in memory has no order of its own, and nothing that
is asked of it tells the two apart.
-/
import Rendezvous.Json.Record

set_option autoImplicit false

namespace Rendezvous.Credential

/-- Names and values, a name at most once, in the order of the names. -/
abbrev Entries : Type :=
  List (String × String)

namespace Entries

/-- The value under a name. -/
def get? (entries : Entries) (key : String) : Option String :=
  entries.lookup key

/-- Put a value under a name, in place of the one that was there. -/
def put (entries : Entries) (key value : String) : Entries :=
  match entries with
  | [] => [(key, value)]
  | (k, v) :: rest =>
    if k = key then (key, value) :: rest
    else if key < k then (key, value) :: (k, v) :: rest
    else (k, v) :: put rest key value

/-- Take away the value under a name. -/
def erase (entries : Entries) (key : String) : Entries :=
  entries.filter fun e => e.1 != key

/-- Put several values, one after the other. -/
def putAll (entries : Entries) (added : List (String × String)) : Entries :=
  added.foldl (fun es e => put es e.1 e.2) entries

/-- Take away several values. -/
def eraseAll (entries : Entries) (keys : List String) : Entries :=
  keys.foldl erase entries

/-- Whether one of the names is there, the `changed` of `delete_many`. -/
def holdsAny (entries : Entries) (keys : List String) : Bool :=
  keys.any fun k => (get? entries k).isSome

/-- How the map is written: one object whose members are texts. Reading accepts members in any order
and a name twice, which a file edited by hand may well have. -/
def codec : Json.Codec (List (String × String)) :=
  .dictionary .text

/-- The bytes that `write_map` puts into the file. -/
def toBytes (entries : Entries) : List UInt8 :=
  Text.Utf8.bytes (codec.encode entries)

/-- The map that `read_map` finds in a file. An empty file is an empty map and not a corrupt one; of
a name that is there twice the later value counts, as with any insertion into a map. -/
def ofBytes (content : List UInt8) : Except Json.DecodeError Entries :=
  if content.isEmpty then .ok []
  else
    match codec.decode content with
    | .ok read => .ok (putAll [] read)
    | .error e => .error e

end Entries

end Rendezvous.Credential
