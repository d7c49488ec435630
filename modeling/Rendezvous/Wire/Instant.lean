/-
`DateTime<Utc>` as a member of a record: a string in the format of RFC 3339.

It is always written in UTC. Any offset is accepted, and the instant is what counts: two texts of
one instant are read as equal.
-/
import Rendezvous.Json.Record
import Rendezvous.Time.Reader

set_option autoImplicit false

namespace Rendezvous.Wire

open Json (Codec)

/-- An instant, as its text. A string that is refused is reported with the reason that the reader
gives. -/
def instant : Codec Time.Timestamp :=
  .ofString "an RFC 3339 formatted date and time string" Time.Timestamp.text fun s =>
    match Time.Timestamp.parse s.toList with
    | .ok t => .ok t
    | .error refusal => .error (.rejected refusal.message)

end Rendezvous.Wire
