/-
Numbers in a JSON text, as `serde_json` reads them.

A whole number is exact if it fits into 64 bits. Any other number is a float: as many leading digits
as fit make a significand, all further ones only move the point, and the result is scaled by a power
of ten in the arithmetic of floats. The number of an unknown member is only skipped; it obeys the
same grammar and has no range.
-/
import Rendezvous.Decimal.Scaled
import Rendezvous.Json.Token

set_option autoImplicit false

namespace Rendezvous.Json

/-! ## Reading and skipping -/

/-- A number as it is read: whole numbers stay exact as long as they fit into 64 bits. -/
inductive Number
  | whole (i : Int)
  | float (f : Float)

/-- The largest significand that is kept exactly. -/
def maxSignificand : Nat := 18446744073709551615

/-- Take digits onto `n` until one is missing or would not fit. The answer is the number,
how many digits were taken, and the rest. -/
def takeDigits (n count : Nat) : List UInt8 → Nat × Nat × List UInt8
  | [] => (n, count, [])
  | b :: s =>
    match digit? b with
    | none => (n, count, b :: s)
    | some d =>
      if n * 10 + d ≤ maxSignificand then takeDigits (n * 10 + d) (count + 1) s
      else (n, count, b :: s)

/-- Pass over digits, counting them. -/
def skipDigits (count : Nat) : List UInt8 → Nat × List UInt8
  | [] => (count, [])
  | b :: s => if (digit? b).isSome then skipDigits (count + 1) s else (count, b :: s)

/-- The largest exponent that is kept exactly. -/
def maxExponent : Nat := 2147483647

/-- Take the digits of an exponent; `none` and the rest after the digit that was too much. -/
def takeExponent (n : Nat) : List UInt8 → Option Nat × List UInt8
  | [] => (some n, [])
  | b :: s =>
    match digit? b with
    | none => (some n, b :: s)
    | some d =>
      if n * 10 + d ≤ maxExponent then takeExponent (n * 10 + d) s else (none, s)

/-- The float of a number whose parts are read, or the fault that it is too large. -/
def scaledNumber (negative : Bool) (significand : Nat) (exponent : Int) (s : List UInt8) :
    Except Fault (Number × List UInt8) :=
  match Decimal.scaled significand exponent with
  | none => .error (.after .numberOutOfRange s)
  | some f => .ok (.float (Decimal.signed negative f), s)

/-- Whether the exponent mark comes next. -/
def isExponentMark (b : UInt8) : Bool :=
  b == ascii 'e' || b == ascii 'E'

/-- The sign of an exponent, if it has one: whether it is negative, and the rest. -/
def exponentSign : List UInt8 → Bool × List UInt8
  | [] => (false, [])
  | b :: s =>
    if b = ascii '+' then (false, s) else if b = ascii '-' then (true, s) else (false, b :: s)

/-- The exponent of a number, after its mark. One that is too large is an error, unless the number
is zero or the exponent is negative; then the number is zero. -/
def readExponent (negative : Bool) (significand : Nat) (start : Int) (s : List UInt8) :
    Except Fault (Number × List UInt8) :=
  match exponentSign s with
  | (_, []) => .error (.after .endInValue [])
  | (down, b :: s) =>
    match digit? b with
    | none => .error (.after .invalidNumber s)
    | some d =>
      match takeExponent d s with
      | (some n, s) => scaledNumber negative significand (if down then start - n else start + n) s
      | (none, s) =>
        if significand ≠ 0 ∧ ¬down then .error (.after .numberOutOfRange s)
        else .ok (.float (Decimal.signed negative 0), (skipDigits 0 s).2)

/-- The rest of a number with a point or without, whose digits are all read. -/
def finishFloat (negative : Bool) (significand : Nat) (exponent : Int) :
    List UInt8 → Except Fault (Number × List UInt8)
  | [] => scaledNumber negative significand exponent []
  | b :: s =>
    if isExponentMark b then readExponent negative significand exponent s
    else scaledNumber negative significand exponent (b :: s)

/-- The places of a number, after its point. Digits beyond what the significand can hold
are dropped. -/
def readPlaces (negative : Bool) (significand : Nat) (start : Int) (s : List UInt8) :
    Except Fault (Number × List UInt8) :=
  match takeDigits significand 0 s with
  | (n, count, r) =>
    if startsWithDigit r then finishFloat negative n (start - count) (skipDigits 0 r).2
    else if count = 0 then
      .error (.on (if r.isEmpty then .endInValue else .invalidNumber) r)
    else finishFloat negative n (start - count) r

/-- What may follow the digits of a number that fits into 64 bits: a point, an exponent, or anything
that is no part of the number. -/
def finishWhole (negative : Bool) (significand : Nat) :
    List UInt8 → Except Fault (Number × List UInt8)
  | [] => .ok (whole, [])
  | b :: s =>
    if b = ascii '.' then readPlaces negative significand 0 s
    else if isExponentMark b then readExponent negative significand 0 s
    else .ok (whole, b :: s)
where
  /-- The number itself; a negative one that is zero or too small for 64 bits is a float. -/
  whole : Number :=
    if negative then
      if significand = 0 ∨ 9223372036854775808 < significand then
        .float (-significand.toUInt64.toFloat)
      else .whole (-significand)
    else .whole significand

/-- What may follow the digits of a number that does not fit into 64 bits. -/
def finishLong (negative : Bool) (significand : Nat) (dropped : Nat) :
    List UInt8 → Except Fault (Number × List UInt8)
  | [] => scaledNumber negative significand dropped []
  | b :: s =>
    if b = ascii '.' then readPlaces negative significand dropped s
    else if isExponentMark b then readExponent negative significand dropped s
    else scaledNumber negative significand dropped (b :: s)

/-- A number after its sign. A zero must not be followed by another digit, and digits past the 64
bits only move the point. -/
def readUnsigned (negative : Bool) : List UInt8 → Except Fault (Number × List UInt8)
  | [] => .error (.after .endInValue [])
  | b :: s =>
    match digit? b with
    | none => .error (.after .invalidNumber s)
    | some 0 =>
      if startsWithDigit s then .error (.on .invalidNumber s) else finishWhole negative 0 s
    | some d =>
      match takeDigits d 0 s with
      | (n, _, r) =>
        if startsWithDigit r then
          match skipDigits 0 r with
          | (dropped, r) => finishLong negative n dropped r
        else finishWhole negative n r

/-- A number whose first byte, a minus or a digit, is `first`. -/
def readNumber (first : UInt8) (s : List UInt8) : Except Fault (Number × List UInt8) :=
  if first = ascii '-' then readUnsigned true s else readUnsigned false (first :: s)

/-- Pass over an exponent, after its mark. -/
def skipExponent (s : List UInt8) : Except Fault (List UInt8) :=
  match (exponentSign s).2 with
  | [] => .error (.after .invalidNumber [])
  | b :: s =>
    if (digit? b).isSome then .ok (skipDigits 0 s).2 else .error (.after .invalidNumber s)

/-- Pass over places, after the point. -/
def skipPlaces (s : List UInt8) : Except Fault (List UInt8) :=
  match skipDigits 0 s with
  | (0, r) => .error (.on .invalidNumber r)
  | (_, []) => .ok []
  | (_, b :: r) => if isExponentMark b then skipExponent r else .ok (b :: r)

/-- Pass over what may follow the digits of a number. -/
def skipAfterDigits : List UInt8 → Except Fault (List UInt8)
  | [] => .ok []
  | b :: s =>
    if b = ascii '.' then skipPlaces s
    else if isExponentMark b then skipExponent s
    else .ok (b :: s)

/-- Pass over a number that is not kept, after its sign. -/
def skipUnsigned : List UInt8 → Except Fault (List UInt8)
  | [] => .error (.after .invalidNumber [])
  | b :: s =>
    match digit? b with
    | none => .error (.after .invalidNumber s)
    | some 0 => if startsWithDigit s then .error (.on .invalidNumber s) else skipAfterDigits s
    | some _ => skipAfterDigits (skipDigits 0 s).2

/-! ## Numbers are taken from the front -/

theorem length_takeDigits_le (n count : Nat) (s : List UInt8) :
    (takeDigits n count s).2.2.length ≤ s.length := by
  induction s generalizing n count with
  | nil => simp [takeDigits]
  | cons b s ih =>
    simp only [takeDigits]
    split
    · simp
    · split
      · have := ih (n * 10 + ‹Nat›) (count + 1)
        simp only [List.length_cons]
        omega
      · simp

theorem length_skipDigits_le (count : Nat) (s : List UInt8) :
    (skipDigits count s).2.length ≤ s.length := by
  induction s generalizing count with
  | nil => simp [skipDigits]
  | cons b s ih =>
    simp only [skipDigits]
    split
    · have := ih (count + 1)
      simp only [List.length_cons]
      omega
    · simp

theorem length_takeExponent_le (n : Nat) (s : List UInt8) :
    (takeExponent n s).2.length ≤ s.length := by
  induction s generalizing n with
  | nil => simp [takeExponent]
  | cons b s ih =>
    simp only [takeExponent]
    split
    · simp
    · split
      · have := ih (n * 10 + ‹Nat›)
        simp only [List.length_cons]
        omega
      · simp

theorem length_exponentSign_le (s : List UInt8) : (exponentSign s).2.length ≤ s.length := by
  cases s with
  | nil => simp [exponentSign]
  | cons b s =>
    simp only [exponentSign]
    split
    · simp
    · split <;> simp

theorem eq_of_scaledNumber {negative : Bool} {n : Nat} {e : Int} {s r : List UInt8}
    {x : Number} (h : scaledNumber negative n e s = .ok (x, r)) : r = s := by
  unfold scaledNumber at h
  split at h
  · cases h
  · cases h; rfl

theorem length_le_of_readExponent {negative : Bool} {n : Nat} {e : Int} {s r : List UInt8}
    {x : Number} (h : readExponent negative n e s = .ok (x, r)) : r.length ≤ s.length := by
  have hs := length_exponentSign_le s
  unfold readExponent at h
  split at h
  · cases h
  · rename_i b t heq
    rw [heq] at hs
    simp only [List.length_cons] at hs
    split at h
    · cases h
    · rename_i d _
      -- the digits end where the exponent has been read, or where it no longer fits
      have ht := length_takeExponent_le d t
      split at h
      · rename_i hte
        rw [hte] at ht
        rw [eq_of_scaledNumber h]
        simp only at ht
        omega
      · rename_i u hte
        rw [hte] at ht
        simp only at ht
        split at h
        · cases h
        · cases h
          have := length_skipDigits_le 0 u
          omega

theorem length_le_of_finishFloat {negative : Bool} {n : Nat} {e : Int} {s r : List UInt8}
    {x : Number} (h : finishFloat negative n e s = .ok (x, r)) : r.length ≤ s.length := by
  unfold finishFloat at h
  split at h
  · exact Nat.le_of_eq (congrArg List.length (eq_of_scaledNumber h))
  · split at h
    · have := length_le_of_readExponent h
      simp only [List.length_cons]
      omega
    · exact Nat.le_of_eq (congrArg List.length (eq_of_scaledNumber h))

theorem length_le_of_readPlaces {negative : Bool} {n : Nat} {e : Int} {s r : List UInt8}
    {x : Number} (h : readPlaces negative n e s = .ok (x, r)) : r.length ≤ s.length := by
  have hs := length_takeDigits_le n 0 s
  unfold readPlaces at h
  split at h
  rename_i m count t heq
  rw [heq] at hs
  simp only at hs
  split at h
  · have h1 := length_le_of_finishFloat h
    have h2 := length_skipDigits_le 0 t
    omega
  · split at h
    · cases h
    · have := length_le_of_finishFloat h
      omega

theorem length_le_of_finishWhole {negative : Bool} {n : Nat} {s r : List UInt8}
    {x : Number} (h : finishWhole negative n s = .ok (x, r)) : r.length ≤ s.length := by
  unfold finishWhole at h
  split at h
  · cases h; exact Nat.le_refl _
  · simp only [List.length_cons]
    split at h
    · have := length_le_of_readPlaces h
      omega
    · split at h
      · have := length_le_of_readExponent h
        omega
      · cases h; simp

theorem length_le_of_finishLong {negative : Bool} {n dropped : Nat} {s r : List UInt8}
    {x : Number} (h : finishLong negative n dropped s = .ok (x, r)) : r.length ≤ s.length := by
  unfold finishLong at h
  split at h
  · exact Nat.le_of_eq (congrArg List.length (eq_of_scaledNumber h))
  · split at h
    · have := length_le_of_readPlaces h
      simp only [List.length_cons]
      omega
    · split at h
      · have := length_le_of_readExponent h
        simp only [List.length_cons]
        omega
      · exact Nat.le_of_eq (congrArg List.length (eq_of_scaledNumber h))

theorem length_lt_of_readUnsigned {negative : Bool} {s r : List UInt8} {x : Number}
    (h : readUnsigned negative s = .ok (x, r)) : r.length < s.length := by
  unfold readUnsigned at h
  split at h
  · cases h
  · rename_i b t
    simp only [List.length_cons]
    split at h
    · cases h
    · split at h
      · cases h
      · have := length_le_of_finishWhole h
        omega
    · -- the digits that fit, then those that only move the point
      rename_i d _ _
      have ht := length_takeDigits_le d 0 t
      split at h
      rename_i n count u heq
      rw [heq] at ht
      split at h
      · have hu := length_skipDigits_le 0 u
        split at h
        rename_i dropped v hv
        rw [hv] at hu
        have := length_le_of_finishLong h
        simp only at ht hu
        omega
      · have := length_le_of_finishWhole h
        simp only at ht
        omega

theorem length_le_of_readNumber {first : UInt8} {s r : List UInt8} {x : Number}
    (h : readNumber first s = .ok (x, r)) : r.length ≤ s.length := by
  unfold readNumber at h
  split at h
  · have := length_lt_of_readUnsigned h
    omega
  · have := length_lt_of_readUnsigned h
    simp only [List.length_cons] at this
    omega

theorem length_le_of_skipExponent {s r : List UInt8} (h : skipExponent s = .ok r) :
    r.length ≤ s.length := by
  have hs := length_exponentSign_le s
  unfold skipExponent at h
  split at h
  · cases h
  · rename_i b t heq
    rw [heq] at hs
    simp only [List.length_cons] at hs
    split at h
    · cases h
      have := length_skipDigits_le 0 t
      omega
    · cases h

theorem length_le_of_skipPlaces {s r : List UInt8} (h : skipPlaces s = .ok r) :
    r.length ≤ s.length := by
  have hs := length_skipDigits_le 0 s
  unfold skipPlaces at h
  split at h
  · cases h
  · cases h; simp
  · rename_i heq
    rw [heq] at hs
    simp only [List.length_cons] at hs
    split at h
    · have := length_le_of_skipExponent h
      omega
    · cases h
      simp only [List.length_cons]
      omega

theorem length_le_of_skipAfterDigits {s r : List UInt8} (h : skipAfterDigits s = .ok r) :
    r.length ≤ s.length := by
  unfold skipAfterDigits at h
  split at h
  · cases h; exact Nat.le_refl _
  · simp only [List.length_cons]
    split at h
    · have := length_le_of_skipPlaces h
      omega
    · split at h
      · have := length_le_of_skipExponent h
        omega
      · cases h; simp

theorem length_lt_of_skipUnsigned {s r : List UInt8} (h : skipUnsigned s = .ok r) :
    r.length < s.length := by
  unfold skipUnsigned at h
  split at h
  · cases h
  · rename_i b t
    simp only [List.length_cons]
    split at h
    · cases h
    · split at h
      · cases h
      · have := length_le_of_skipAfterDigits h
        omega
    · have h1 := length_le_of_skipAfterDigits h
      have h2 := length_skipDigits_le 0 t
      omega

end Rendezvous.Json
