/-
Instants of UTC, to the nanosecond.

A timestamp is a second, counted from 1970-01-01T00:00:00Z as if there were no leap
seconds, and a part of that second, in nanoseconds. A leap second has no number of its own:
it is the second before it with a part of a whole second or more. Nothing ties such a part to
the last second of a minute: any second may have it, and the text then shows the second that
follows, `:60` after `:59` and `:31` after `:30`. The years reach from -262143 to 262142.
This is what `DateTime<Utc>` holds, `with_nanosecond` included.

The text is that of RFC 3339, with as many digits after the second as are needed out of
none, three, six and nine. A year outside 0 to 9999 has a sign.
-/
import Rendezvous.Decimal.Digits
import Rendezvous.Time.Calendar

set_option autoImplicit false

namespace Rendezvous.Time

/-- The second that starts the first year. -/
def firstSecond : Int := -8334601228800

/-- The last second of the last year. -/
def lastSecond : Int := 8210266876799

/-- The nanoseconds of a second. -/
def nanosPerSecond : Nat := 1000000000

/-- An instant: a `DateTime<Utc>`. The part of a second may be as long as two seconds, whichever
second it belongs to; see `Timestamp.LeapEndsMinute` for the instants of which a text says this. -/
structure Timestamp where
  second : Int
  nano : Nat
  first_le : firstSecond ≤ second
  le_last : second ≤ lastSecond
  nano_lt : nano < 2 * nanosPerSecond
deriving DecidableEq

/-- The instant with this second and part of a second, if there is one. -/
def Timestamp.of? (second : Int) (nano : Nat) : Option Timestamp :=
  if h : (firstSecond ≤ second ∧ second ≤ lastSecond) ∧ nano < 2 * nanosPerSecond then
    some ⟨second, nano, h.1.1, h.1.2, h.2⟩
  else none

namespace Timestamp

/-- A part of a whole second or more belongs to the last second of a minute only. This is how
leap seconds come about, and all that reading a text gives; an instant that is put together from
a second and its nanoseconds need not be so. -/
def LeapEndsMinute (t : Timestamp) : Prop :=
  nanosPerSecond ≤ t.nano → t.second % 60 = 59

instance (t : Timestamp) : Decidable t.LeapEndsMinute :=
  inferInstanceAs (Decidable (nanosPerSecond ≤ t.nano → t.second % 60 = 59))

/-- The calendar day. -/
def date (t : Timestamp) : Date :=
  Date.ofDays (t.second / 86400)

/-- The second of the day. -/
def secondOfDay (t : Timestamp) : Nat :=
  (t.second % 86400).toNat

def hour (t : Timestamp) : Nat := t.secondOfDay / 3600

def minute (t : Timestamp) : Nat := t.secondOfDay / 60 % 60

end Timestamp

/-! ## Text -/

/-- A year with at least four digits, and with a sign if it does not fit into four. -/
def yearText (year : Int) : List Char :=
  if 0 ≤ year ∧ year ≤ 9999 then Decimal.padded 4 year.toNat
  else (if year < 0 then '-' else '+') :: Decimal.padded 4 year.natAbs

/-- A date with hyphens between its parts. -/
def Date.text (d : Date) : List Char :=
  yearText d.year ++ '-' :: Decimal.padded 2 d.month ++ '-' :: Decimal.padded 2 d.day

/-- The digits after the second, with their point. -/
def fractionText (nano : Nat) : List Char :=
  if nano = 0 then []
  else if nano % 1000000 = 0 then '.' :: Decimal.padded 3 (nano / 1000000)
  else if nano % 1000 = 0 then '.' :: Decimal.padded 6 (nano / 1000)
  else '.' :: Decimal.padded 9 nano

namespace Timestamp

/-- Hours and minutes. -/
def clock (t : Timestamp) : List Char :=
  Decimal.padded 2 t.hour ++ ':' :: Decimal.padded 2 t.minute

/-- The text up to the offset. -/
def civilText (t : Timestamp) : List Char :=
  t.date.text ++ 'T' :: t.clock ++
    ':' :: Decimal.padded 2 (t.secondOfDay % 60 + t.nano / nanosPerSecond) ++
    fractionText (t.nano % nanosPerSecond)

/-- The text, with `Z` for the offset. -/
def text (t : Timestamp) : String :=
  String.ofList (t.civilText ++ ['Z'])

/-- The text, with a numeric offset. -/
def textWithOffset (t : Timestamp) : String :=
  String.ofList (t.civilText ++ ['+', '0', '0', ':', '0', '0'])

end Timestamp

end Rendezvous.Time
