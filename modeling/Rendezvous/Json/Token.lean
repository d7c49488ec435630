/-
The tokens of a JSON text: blanks, words and strings.

Every function takes the bytes that are left and gives back the bytes after the token. A string that
is kept is decoded; one in an unknown member is only skipped, with a laxer check: it may hold
ill-formed UTF-8 and lone surrogates.

Each function has a lemma that it gives back no more bytes than it was given. The readers built on
top recurse on the bytes that are left, and those lemmas are why they terminate.
-/
import Rendezvous.Json.Fault
import Rendezvous.Text.Utf8

set_option autoImplicit false

namespace Rendezvous.Json

/-- The byte of an ASCII character. -/
def ascii (c : Char) : UInt8 :=
  c.toNat.toUInt8

/-- The blanks that may stand between tokens. -/
def isBlank (b : UInt8) : Bool :=
  b == 0x20 || b == 0x0A || b == 0x09 || b == 0x0D

/-- The bytes from the next token on. -/
def skipBlanks (s : List UInt8) : List UInt8 :=
  s.dropWhile isBlank

theorem length_skipBlanks_le (s : List UInt8) : (skipBlanks s).length ≤ s.length :=
  (List.dropWhile_suffix isBlank).length_le

/-- The value of a decimal digit. -/
def digit? (b : UInt8) : Option Nat :=
  if 0x30 ≤ b ∧ b ≤ 0x39 then some (b.toNat - 0x30) else none

/-- Whether a decimal digit comes next. -/
def startsWithDigit : List UInt8 → Bool
  | [] => false
  | b :: _ => (digit? b).isSome

/-! ## Words -/

/-- Consume the rest of a word whose first letter decided what it must be. -/
def readWord : (word : List Char) → List UInt8 → Except Fault (List UInt8)
  | [], s => .ok s
  | _ :: _, [] => .error (.after .endInValue [])
  | c :: word, b :: s => if b = ascii c then readWord word s else .error (.after .expectedWord s)

theorem length_le_of_readWord {word : List Char} {s r : List UInt8}
    (h : readWord word s = .ok r) : r.length ≤ s.length := by
  induction word generalizing s with
  | nil => cases h; exact Nat.le_refl _
  | cons c word ih =>
    cases s with
    | nil => cases h
    | cons b s =>
      simp only [readWord] at h
      split at h
      · have := ih h
        simp only [List.length_cons]
        omega
      · cases h

/-! ## Strings -/

/-- The value of a hex digit. -/
def hexDigit? (b : UInt8) : Option Nat :=
  if 0x30 ≤ b ∧ b ≤ 0x39 then some (b.toNat - 0x30)
  else if 0x41 ≤ b ∧ b ≤ 0x46 then some (b.toNat - 0x37)
  else if 0x61 ≤ b ∧ b ≤ 0x66 then some (b.toNat - 0x57)
  else none

/-- The number of four hex digits. -/
def hexValue? (a b c d : UInt8) : Option Nat :=
  match hexDigit? a, hexDigit? b, hexDigit? c, hexDigit? d with
  | some a, some b, some c, some d => some (((a * 16 + b) * 16 + c) * 16 + d)
  | _, _, _, _ => none

/-- Read four hex digits. -/
def readHex : List UInt8 → Except Fault (Nat × List UInt8)
  | a :: b :: c :: d :: s =>
    match hexValue? a b c d with
    | some n => .ok (n, s)
    | none => .error (.after .invalidEscape s)
  | _ => .error (.after .endInString [])

/-- The second half of a pair of surrogates, after the first half `high`. The errors are those of a
string that ends early, or that goes on without the other half. -/
def readLowSurrogate (high : Nat) : List UInt8 → Except Fault (Char × List UInt8)
  | [] => .error (.after .endInString [])
  | b :: s =>
    if b ≠ ascii '\\' then .error (.after .unexpectedEndOfHexEscape s)
    else match s with
      | [] => .error (.after .endInString [])
      | b :: s =>
        if b ≠ ascii 'u' then .error (.after .unexpectedEndOfHexEscape s)
        else match readHex s with
          | .error e => .error e
          | .ok (low, s) =>
            if 0xDC00 ≤ low ∧ low ≤ 0xDFFF then
              .ok (Char.ofNat ((high - 0xD800) * 0x400 + (low - 0xDC00) + 0x10000), s)
            else .error (.after .loneSurrogate s)

/-- The character of an escape by number, after its `u`. -/
def readUnicodeEscape (s : List UInt8) : Except Fault (Char × List UInt8) :=
  match readHex s with
  | .error e => .error e
  | .ok (n, s) =>
    if 0xDC00 ≤ n ∧ n ≤ 0xDFFF then .error (.after .loneSurrogate s)
    else if 0xD800 ≤ n ∧ n ≤ 0xDBFF then readLowSurrogate n s
    else .ok (Char.ofNat n, s)

/-- The character of an escape by letter. -/
def letterEscape? (b : UInt8) : Option Char :=
  if b = ascii '"' then some '"'
  else if b = ascii '\\' then some '\\'
  else if b = ascii '/' then some '/'
  else if b = ascii 'b' then some '\x08'
  else if b = ascii 'f' then some '\x0C'
  else if b = ascii 'n' then some '\n'
  else if b = ascii 'r' then some '\r'
  else if b = ascii 't' then some '\t'
  else none

/-- The character of an escape, after its backslash. -/
def readEscape : List UInt8 → Except Fault (Char × List UInt8)
  | [] => .error (.after .endInString [])
  | b :: s =>
    match letterEscape? b with
    | some c => .ok (c, s)
    | none => if b = ascii 'u' then readUnicodeEscape s else .error (.after .invalidEscape s)

/-- Check an escape that is not kept, after its backslash. -/
def skipEscape : List UInt8 → Except Fault (List UInt8)
  | [] => .error (.after .endInString [])
  | b :: s =>
    if (letterEscape? b).isSome then .ok s
    else if b = ascii 'u' then
      match readHex s with
      | .error e => .error e
      | .ok (_, s) => .ok s
    else .error (.after .invalidEscape s)

theorem length_lt_of_readHex {s r : List UInt8} {n : Nat} (h : readHex s = .ok (n, r)) :
    r.length < s.length := by
  unfold readHex at h
  split at h
  · split at h
    · cases h; simp only [List.length_cons]; omega
    · cases h
  · cases h

theorem length_lt_of_readLowSurrogate {s r : List UInt8} {high : Nat} {c : Char}
    (h : readLowSurrogate high s = .ok (c, r)) : r.length < s.length := by
  unfold readLowSurrogate at h
  split at h
  · cases h
  · split at h
    · cases h
    · split at h
      · cases h
      · split at h
        · cases h
        · split at h
          · cases h
          · rename_i hex
            split at h
            · -- the only way not to fail: a backslash, a `u`, and four digits of the second half
              simp only [Except.ok.injEq, Prod.mk.injEq] at h
              have := length_lt_of_readHex hex
              rw [← h.2]
              simp only [List.length_cons]
              omega
            · cases h

theorem length_lt_of_readUnicodeEscape {s r : List UInt8} {c : Char}
    (h : readUnicodeEscape s = .ok (c, r)) : r.length < s.length := by
  unfold readUnicodeEscape at h
  split at h
  · cases h
  · rename_i hex
    have := length_lt_of_readHex hex
    split at h
    · cases h
    · split at h
      · have := length_lt_of_readLowSurrogate h
        omega
      · cases h
        assumption

theorem length_lt_of_readEscape {s r : List UInt8} {c : Char}
    (h : readEscape s = .ok (c, r)) : r.length < s.length := by
  unfold readEscape at h
  split at h
  · cases h
  · simp only [List.length_cons]
    split at h
    · cases h; omega
    · split at h
      · have := length_lt_of_readUnicodeEscape h
        omega
      · cases h

theorem length_lt_of_skipEscape {s r : List UInt8} (h : skipEscape s = .ok r) :
    r.length < s.length := by
  unfold skipEscape at h
  split at h
  · cases h
  · simp only [List.length_cons]
    split at h
    · cases h; omega
    · split at h
      · split at h
        · cases h
        · rename_i hex
          have := length_lt_of_readHex hex
          cases h
          omega
      · cases h

/-- The bytes of a string after its opening quote, in front of those already read (last
one first). Escapes are replaced by the bytes of their characters. -/
def readCharsOnto (seen : List UInt8) (s : List UInt8) :
    Except Fault (List UInt8 × List UInt8) :=
  match s with
  | [] => .error (.after .endInString [])
  | b :: s =>
    if b = ascii '"' then .ok (seen.reverse, s)
    else if b = ascii '\\' then
      match _h : readEscape s with
      | .error e => .error e
      | .ok (c, r) => readCharsOnto ((String.utf8EncodeChar c).reverse ++ seen) r
    else if b < 0x20 then .error (.after .controlCharacter s)
    else readCharsOnto (b :: seen) s
termination_by s.length
decreasing_by
  · have := length_lt_of_readEscape _h
    simp only [List.length_cons]
    omega
  · simp only [List.length_cons]
    omega

/-- A string after its opening quote. The bytes between the quotes have to be UTF-8 once
the escapes are replaced; if not, the fault is placed so many bytes before the end of the
string as there are from the first ill-formed one on. -/
def readString (s : List UInt8) : Except Fault (String × List UInt8) :=
  match readCharsOnto [] s with
  | .error e => .error e
  | .ok (bytes, r) =>
    match Text.Utf8.decode bytes with
    | .ok cs => .ok (String.ofList cs, r)
    | .error damage => .error ⟨.invalidCodePoint, r.length + damage.left⟩

/-- Pass over a string that is not kept, after its opening quote. -/
def skipString (s : List UInt8) : Except Fault (List UInt8) :=
  match s with
  | [] => .error (.after .endInString [])
  | b :: s =>
    if b = ascii '"' then .ok s
    else if b = ascii '\\' then
      match _h : skipEscape s with
      | .error e => .error e
      | .ok r => skipString r
    else if b < 0x20 then .error (.after .controlCharacter (b :: s))
    else skipString s
termination_by s.length
decreasing_by
  · have := length_lt_of_skipEscape _h
    simp only [List.length_cons]
    omega
  · simp only [List.length_cons]
    omega

theorem length_lt_of_readCharsOnto {seen s bytes r : List UInt8}
    (h : readCharsOnto seen s = .ok (bytes, r)) : r.length < s.length := by
  fun_induction readCharsOnto seen s with
  | case1 => cases h
  | case2 => cases h; simp
  | case3 => cases h
  | case4 _ _ _ _ he _ ih =>
    have h1 := ih h
    have h2 := length_lt_of_readEscape he
    simp only [List.length_cons]
    omega
  | case5 => cases h
  | case6 _ _ _ _ _ _ ih =>
    have := ih h
    simp only [List.length_cons]
    omega

theorem length_lt_of_readString {s r : List UInt8} {t : String}
    (h : readString s = .ok (t, r)) : r.length < s.length := by
  unfold readString at h
  split at h
  · cases h
  · rename_i hc
    split at h
    · cases h; exact length_lt_of_readCharsOnto hc
    · cases h

theorem length_lt_of_skipString {s r : List UInt8} (h : skipString s = .ok r) :
    r.length < s.length := by
  fun_induction skipString s with
  | case1 => cases h
  | case2 => cases h; simp
  | case3 => cases h
  | case4 _ _ he _ ih =>
    have h1 := ih h
    have h2 := length_lt_of_skipEscape he
    simp only [List.length_cons]
    omega
  | case5 => cases h
  | case6 _ _ _ _ _ ih =>
    have := ih h
    simp only [List.length_cons]
    omega

end Rendezvous.Json
