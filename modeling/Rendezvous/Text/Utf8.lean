/-
UTF-8: from characters to bytes and back.

Writing is the encoding of the standard library, character by character. Reading is
spelled out here because the two callers need to know where the text goes wrong, not
only that it does: a JSON string reports the distance of the first ill-formed byte
from its end, and a console line reports how many bytes the ill-formed sequence has.

The reader accepts exactly the well-formed sequences: no overlong forms, no
surrogates, nothing above U+10FFFF. Which second bytes are allowed depends on the
first one; `secondRange` is that table, and with it a sequence is ill formed at the
earliest byte that no well-formed sequence could have there.
-/
set_option autoImplicit false

namespace Rendezvous.Text.Utf8

/-- The bytes of a text. -/
def encode (cs : List Char) : List UInt8 :=
  cs.flatMap String.utf8EncodeChar

/-- The bytes of a string. -/
def bytes (s : String) : List UInt8 :=
  encode s.toList

/-- How many bytes follow this first byte, and the payload it carries itself. -/
inductive Lead
  | single
  | more (count : Nat) (payload : Nat)
  | invalid

/-- The role of a byte that stands first. 0xC0 and 0xC1 could only begin an overlong form, and what
begins with a byte from 0xF5 on would be above U+10FFFF. -/
def lead (b : UInt8) : Lead :=
  let n := b.toNat
  if n < 0x80 then .single
  else if n < 0xC2 then .invalid
  else if n < 0xE0 then .more 1 (n - 0xC0)
  else if n < 0xF0 then .more 2 (n - 0xE0)
  else if n < 0xF5 then .more 3 (n - 0xF0)
  else .invalid

/-- Lowest and highest byte that may follow this first byte. The four exceptions keep out overlong
forms (0xE0, 0xF0), surrogates (0xED) and what is above U+10FFFF (0xF4). -/
def secondRange (first : UInt8) : Nat × Nat :=
  if first == 0xE0 then (0xA0, 0xBF)
  else if first == 0xED then (0x80, 0x9F)
  else if first == 0xF0 then (0x90, 0xBF)
  else if first == 0xF4 then (0x80, 0x8F)
  else (0x80, 0xBF)

/-- Take `count` continuation bytes, the first of them within `range`. The answer is the
payload and what follows, or how many bytes were fine before one was missing (`none`
after it) or wrong. -/
def continuation (range : Nat × Nat) :
    (count : Nat) → (payload : Nat) → List UInt8 → Except (Nat × Bool) (Nat × List UInt8)
  | 0, payload, rest => .ok (payload, rest)
  | _ + 1, _, [] => .error (0, true)
  | count + 1, payload, b :: rest =>
    if range.1 ≤ b.toNat ∧ b.toNat ≤ range.2 then
      match continuation (0x80, 0xBF) count (payload * 64 + (b.toNat - 0x80)) rest with
      | .ok r => .ok r
      | .error (n, ended) => .error (n + 1, ended)
    else .error (0, false)

/-- What the bytes begin with. -/
inductive Head
  /-- the bytes are used up -/
  | done
  /-- a character, and what follows it -/
  | char (c : Char) (rest : List UInt8)
  /-- an ill-formed sequence of so many bytes; `none` if the bytes end inside a sequence -/
  | bad (length : Option Nat)

/-- Read one character. -/
def head : List UInt8 → Head
  | [] => .done
  | b :: rest =>
    match lead b with
    | .invalid => .bad (some 1)
    | .single => .char (Char.ofNat b.toNat) rest
    | .more count payload =>
      match continuation (secondRange b) count payload rest with
      | .ok (n, rest) => .char (Char.ofNat n) rest
      | .error (_, true) => .bad none
      | .error (n, false) => .bad (some (n + 1))

/-- Continuation bytes are taken from the front. The bound is not strict, because a character of one
byte has none. -/
theorem length_le_of_continuation {range : Nat × Nat} {count payload n : Nat}
    {bs rest : List UInt8} (h : continuation range count payload bs = .ok (n, rest)) :
    rest.length ≤ bs.length := by
  induction count generalizing range payload bs with
  | zero => simp only [continuation, Except.ok.injEq, Prod.mk.injEq] at h; simp [h.2]
  | succ count ih =>
    cases bs with
    | nil => simp [continuation] at h
    | cons b bs =>
      simp only [continuation] at h
      split at h
      · split at h
        · rename_i r hr
          cases h
          have := ih hr
          simp only [List.length_cons]
          omega
        · exact absurd h (by simp)
      · exact absurd h (by simp)

/-- A character takes at least one byte, so decoding a text ends with the text. -/
theorem length_lt_of_head {bs rest : List UInt8} {c : Char} (h : head bs = .char c rest) :
    rest.length < bs.length := by
  cases bs with
  | nil => simp [head] at h
  | cons b bs =>
    simp only [head] at h
    split at h
    · simp at h
    · simp only [Head.char.injEq] at h
      simp [h.2]
    · split at h
      · rename_i hc
        simp only [Head.char.injEq] at h
        have := length_le_of_continuation hc
        rw [← h.2]
        simp only [List.length_cons]
        omega
      · simp at h
      · simp at h

/-- Where a text stops being UTF-8. -/
structure Damage where
  /-- the bytes from the first ill-formed one to the end -/
  left : Nat
  /-- the bytes of the ill-formed sequence; `none` if the text ends inside one -/
  length : Option Nat
deriving Repr, DecidableEq

/-- Read a whole text, in front of the characters already read (last one first). -/
def decodeOnto (seen : List Char) (bs : List UInt8) : Except Damage (List Char) :=
  match _h : head bs with
  | .done => .ok seen.reverse
  | .char c rest => decodeOnto (c :: seen) rest
  | .bad length => .error ⟨bs.length, length⟩
termination_by bs.length
decreasing_by exact length_lt_of_head _h

/-- `str::from_utf8`. -/
def decode (bs : List UInt8) : Except Damage (List Char) :=
  decodeOnto [] bs

/-- The text of the bytes, with U+FFFD in place of each ill-formed sequence. -/
def decodeLossyOnto (seen : List Char) (bs : List UInt8) : List Char :=
  match _h : head bs with
  | .done => seen.reverse
  | .char c rest => decodeLossyOnto (c :: seen) rest
  | .bad none => ('\uFFFD' :: seen).reverse
  | .bad (some n) => decodeLossyOnto ('\uFFFD' :: seen) (bs.drop (max n 1))
termination_by bs.length
decreasing_by
  · exact length_lt_of_head _h
  · cases bs with
    | nil => simp [head] at _h
    | cons b bs => simp only [List.length_drop, List.length_cons]; omega

/-- `String::from_utf8_lossy`: U+FFFD in place of each ill-formed sequence. -/
def decodeLossy (bs : List UInt8) : List Char :=
  decodeLossyOnto [] bs

end Rendezvous.Text.Utf8
