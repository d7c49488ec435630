/-
Punycode: names beyond ASCII, written with ASCII letters and digits.

A text is determined by its ASCII characters, in order, and by where the others are put in between.
They are put in by rising code point, and those of one code point from left to right, so what has to
be told for each one is how far it is from the one before: how many code points up, and how many
places along, as a single number (a *gap*). The written form is the ASCII characters, a hyphen if
there are any, and the gaps.

A gap is written in digits of a mixed base, least one first, and a digit below a threshold is the
last of its gap, so nothing stands between gaps. The thresholds move with the sizes of the gaps
before, which is only a matter of length: reader and writer adapt in the same way.
-/
set_option autoImplicit false

namespace Rendezvous.Web.Punycode

/-! ## Digits and thresholds -/

/-- A digit as a character: letters first, then the decimal digits. -/
def digit (d : Nat) : Char :=
  if d < 26 then Char.ofNat (97 + d) else Char.ofNat (22 + d)

/-- The value of a digit; letters count in either case. -/
def digitValue? (c : Char) : Option Nat :=
  if 'a' ≤ c ∧ c ≤ 'z' then some (c.toNat - 97)
  else if 'A' ≤ c ∧ c ≤ 'Z' then some (c.toNat - 65)
  else if '0' ≤ c ∧ c ≤ '9' then some (c.toNat - 22)
  else none

/-- The threshold at a place: one, then rising, then twenty-six. -/
def threshold (bias place : Nat) : Nat :=
  max 1 (min 26 (place - bias))

theorem threshold_pos (bias place : Nat) : 1 ≤ threshold bias place :=
  Nat.le_max_left _ _

/-- The places that a gap of a size is expected to take, and what is left of it. -/
def places (size taken : Nat) : Nat × Nat :=
  if h : 455 < size then places (size / 35) (taken + 36) else (taken, size)
termination_by size
decreasing_by exact Nat.div_lt_self (by omega) (by omega)

/-- Where the thresholds start to rise after a gap, with `count` characters put in so far.
The first gap is large by nature and says little of what follows. -/
def adapted (first : Bool) (gap count : Nat) : Nat :=
  let scaled := if first then gap / 700 else gap / 2
  let r := places (scaled + scaled / count) 0
  r.1 + 36 * r.2 / (r.2 + 38)

/-- Where the thresholds start to rise at first. -/
def firstBias : Nat := 72

/-! ## Gaps as digits -/

/-- A gap in digits, from a place on. -/
def writeGap (bias place gap : Nat) : List Char :=
  let t := threshold bias place
  if gap < t then [digit gap]
  else digit (t + (gap - t) % (36 - t)) :: writeGap bias (place + 36) ((gap - t) / (36 - t))
termination_by gap
decreasing_by
  have h := threshold_pos bias place
  have le := Nat.div_le_self (gap - threshold bias place) (36 - threshold bias place)
  omega

/-- Gaps in digits, with `count` characters put in before them. -/
def writeGaps : (first : Bool) → (bias count : Nat) → List Nat → List Char
  | _, _, _, [] => []
  | first, bias, count, gap :: gaps =>
    writeGap bias 36 gap ++ writeGaps false (adapted first gap (count + 1)) (count + 1) gaps

/-- Where numbers end. -/
def limit : Nat := Nat.pow 2 32

/-- Read the digits of a gap, and what follows them. -/
def readGap (bias : Nat) : (place weight gap : Nat) → List Char → Option (Nat × List Char)
  | _, _, _, [] => none
  | place, weight, gap, c :: cs =>
    match digitValue? c with
    | none => none
    | some d =>
      let t := threshold bias place
      let gap := gap + d * weight
      if limit ≤ weight ∨ limit ≤ gap then none
      else if d < t then some (gap, cs)
      else readGap bias (place + 36) (weight * (36 - t)) gap cs

/-- Reading a gap takes at least one character, which is what makes the loop over the gaps end. -/
theorem length_lt_of_readGap {bias place weight gap : Nat} {cs : List Char}
    {r : Nat × List Char} (h : readGap bias place weight gap cs = some r) :
    r.2.length < cs.length := by
  induction cs generalizing place weight gap with
  | nil => simp [readGap] at h
  | cons c cs ih =>
    rw [readGap] at h
    split at h
    · cases h
    · dsimp only at h
      split at h
      · cases h
      · split at h
        · cases h
          simp
        · have := ih h
          simp only [List.length_cons]
          omega

/-- Read gaps to the end of the text, with `count` characters put in before them. -/
def readGaps (first : Bool) (bias count : Nat) (cs : List Char) : Option (List Nat) :=
  if cs.isEmpty then some []
  else
    match h : readGap bias 36 1 0 cs with
    | none => none
    | some (gap, rest) =>
      (readGaps false (adapted first gap (count + 1)) (count + 1) rest).map (gap :: ·)
termination_by cs.length
decreasing_by exact length_lt_of_readGap h

/-! ## Texts as gaps -/

/-- Walk along a text for one code point, `gap` being what lies behind: the gaps of its
characters with that code point, and the gap that is left at the end. -/
def gapsAlong (code : Nat) : (gap : Nat) → List Char → List Nat × Nat
  | gap, [] => ([], gap)
  | gap, c :: cs =>
    if c.toNat < code then gapsAlong code (gap + 1) cs
    else if c.toNat = code then
      let r := gapsAlong code 0 cs
      (gap :: r.1, r.2)
    else gapsAlong code gap cs

/-- The gaps of a text, for code points in rising order from `code` on, with `count`
characters put in so far. -/
def gapsOf (text : List Char) : (code count gap : Nat) → List Nat → List Nat
  | _, _, _, [] => []
  | code, count, gap, next :: codes =>
    let r := gapsAlong next (gap + (next - code) * (count + 1)) text
    r.1 ++ gapsOf text (next + 1) (count + r.1.length) (r.2 + 1) codes

/-- The first code point beyond ASCII. -/
def firstCode : Nat := 128

/-- The ASCII characters of a text. -/
def basic (text : List Char) : List Char :=
  text.filter (·.toNat < firstCode)

/-- The code points beyond ASCII of a text, each once, in rising order. -/
def codes (text : List Char) : List Nat :=
  (((text.map Char.toNat).filter (firstCode ≤ ·)).mergeSort).eraseReps

/-- Put characters in, one for each gap. `place` is where the last one was put, and one
more. -/
def putIn : (code place : Nat) → (text : List Char) → List Nat → Option (List Char)
  | _, _, text, [] => some text
  | code, place, text, gap :: gaps =>
    let position := place + gap
    let code := code + position / (text.length + 1)
    let place := position % (text.length + 1)
    if position < limit ∧ code.isValidChar then
      putIn code (place + 1) (text.insertIdx place (Char.ofNat code)) gaps
    else none

/-! ## Whole texts -/

/-- The written form of a text. -/
def encode (text : List Char) : List Char :=
  let start := basic text
  (if start.isEmpty then [] else start ++ ['-']) ++
    writeGaps true firstBias start.length
      (gapsOf text firstCode start.length 0 (codes text))

/-- What stands before the last hyphen and what stands after it. A hyphen in front of all
else parts nothing. -/
def cut (written : List Char) : List Char × List Char :=
  let after := (written.reverse.takeWhile (· != '-')).reverse
  let start := written.take (written.length - after.length - 1)
  if start.isEmpty then ([], written) else (start, after)

/-- The text of a written form. -/
def decode (written : List Char) : Option (List Char) :=
  let (start, digits) := cut written
  if start.all (·.toNat < firstCode) then
    (readGaps true firstBias start.length digits).bind (putIn firstCode 0 start)
  else none

end Rendezvous.Web.Punycode
