/-
`DateTime::parse_from_rfc3339` in its lenient form: reading a timestamp.

The accepted texts are wider than RFC 3339: white space may stand before every number, before every
separator and before the offset, fields may be shorter than two digits, the `T` may be a space, the
offset may be `UTC`, and a year with a sign may have any number of digits. Each field is checked
against its own range as soon as it is read; that the day exists and that the instant in UTC is not
too far away is only checked once the whole text is read.
-/
import Rendezvous.Text.Blank
import Rendezvous.Time.Timestamp

set_option autoImplicit false

namespace Rendezvous.Time

/-- Why a text is no timestamp (`ParseErrorKind`). -/
inductive Refusal
  | tooShort
  | invalid
  | outOfRange
  | tooLong
  | impossible
deriving Repr, DecidableEq

/-- The wording of a refusal. -/
def Refusal.message : Refusal → String
  | .tooShort => "premature end of input"
  | .invalid => "input contains invalid characters"
  | .outOfRange => "input is out of range"
  | .tooLong => "trailing input"
  | .impossible => "no possible date and time matching input"

/-- One to `width` digits. The number is not bounded here; a field has its own range. -/
def readDigits (width : Nat) : List Char → Except Refusal (Nat × List Char)
  | [] => .error .tooShort
  | c :: s =>
    let digits := ((c :: s).take width).takeWhile Char.isDigit
    if digits.isEmpty then .error .invalid
    else .ok (Decimal.value digits, (c :: s).drop digits.length)

/-- A field of one or two digits after blanks, between `low` and `high`. -/
def readField (low high : Nat) (s : List Char) : Except Refusal (Nat × List Char) := do
  let (n, s) ← readDigits 2 (Text.trimStart s)
  if low ≤ n ∧ n ≤ high then .ok (n, s) else .error .outOfRange

/-- A character after blanks. -/
def readMark (c : Char) (s : List Char) : Except Refusal (List Char) :=
  match Text.trimStart s with
  | [] => .error .tooShort
  | d :: s => if d = c then .ok s else .error .invalid

/-- A year after blanks: one to four digits, or a sign and any number of digits. -/
def readYear (s : List Char) : Except Refusal (Int × List Char) :=
  match Text.trimStart s with
  | '-' :: s => do
    let (n, s) ← readDigits s.length s
    if n ≤ 2147483648 then .ok (-(n : Int), s) else .error .outOfRange
  | '+' :: s => do
    let (n, s) ← readDigits s.length s
    if n ≤ 2147483647 then .ok (n, s) else .error .outOfRange
  | s => do
    let (n, s) ← readDigits 4 s
    .ok (n, s)

/-- The part of a second, if there is one, in nanoseconds. Digits after the ninth are
dropped. -/
def readFraction : List Char → Except Refusal (Nat × List Char)
  | '.' :: s => do
    let (_, rest) ← readDigits 9 s
    let digits := s.take (s.length - rest.length)
    .ok (Decimal.value digits * Nat.pow 10 (9 - digits.length), rest.dropWhile Char.isDigit)
  | s => .ok (0, s)

/-- Two characters of an offset. A single character is too short only if it is one byte. -/
def readTwo : List Char → Except Refusal (Char × Char × List Char)
  | [] => .error .tooShort
  | [c] => .error (if c.utf8Size < 2 then .tooShort else .invalid)
  | c :: d :: s => .ok (c, d, s)

/-- Hours and minutes of an offset, after its sign; in minutes. -/
def readHoursMinutes (s : List Char) : Except Refusal (Nat × List Char) := do
  let (a, b, s) ← readTwo s
  match Decimal.digitValue? a, Decimal.digitValue? b with
  | some h1, some h2 =>
    let s := s.dropWhile fun c => c == ':' || Text.isBlank c
    let (c, d, s) ← readTwo s
    match Decimal.digitValue? c, Decimal.digitValue? d with
    | some m1, some m2 =>
      if m1 ≤ 5 then .ok ((h1 * 10 + h2) * 60 + (m1 * 10 + m2), s) else .error .outOfRange
    | _, _ => .error .invalid
  | _, _ => .error .invalid

/-- The offset from UTC, in minutes. -/
def readOffset : List Char → Except Refusal (Int × List Char)
  | [] => .error .tooShort
  | c :: s =>
    if c = 'Z' ∨ c = 'z' then .ok (0, s)
    else if ((c :: s).take 3).map Char.toUpper = ['U', 'T', 'C'] then .ok (0, s.drop 2)
    else if c = '+' then do
      let (n, s) ← readHoursMinutes s
      .ok (n, s)
    else if c = '-' ∨ c = '\u2212' then do
      let (n, s) ← readHoursMinutes s
      .ok (-(n : Int), s)
    else .error .invalid

/-- The instant of a date and time of day at an offset in minutes. Second 60 is the leap
second at the end of its minute. -/
def instant (date : Date) (hour minute second nano : Nat) (offset : Int) :
    Except Refusal Timestamp :=
  if ¬(-262143 ≤ date.year ∧ date.year ≤ 262142 ∧ date.exists) then .error .outOfRange
  else if 1440 ≤ offset.natAbs then .error .outOfRange
  else
    let ofDay : Nat := hour * 3600 + minute * 60 + min second 59
    let nano := if second = 60 then nano + nanosPerSecond else nano
    match Timestamp.of? (date.toDays * 86400 + ofDay - offset * 60) nano with
    | some t => .ok t
    | none => .error .impossible

/-- Read a timestamp. The reader goes from left to right and reports the first thing that is wrong,
which is part of the error that a decoder shows. -/
def Timestamp.parse (text : List Char) : Except Refusal Timestamp := do
  let (year, s) ← readYear text
  let s ← readMark '-' s
  let (month, s) ← readField 1 12 s
  let s ← readMark '-' s
  let (day, s) ← readField 1 31 s
  let s ← (match s with
    | [] => .error .tooShort
    | c :: s => if c = 'T' ∨ c = 't' ∨ c = ' ' then .ok s else .error .invalid)
  let (hour, s) ← readField 0 23 s
  let s ← readMark ':' s
  let (minute, s) ← readField 0 59 s
  let s ← readMark ':' s
  let (second, s) ← readField 0 60 s
  let (nano, s) ← readFraction s
  let (offset, s) ← readOffset (Text.trimStart s)
  if (Text.trimStart s).isEmpty then
    instant ⟨year, month, day⟩ hour minute second nano offset
  else .error .tooLong

end Rendezvous.Time
