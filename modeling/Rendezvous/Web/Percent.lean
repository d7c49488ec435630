/-
Percent coding: characters that may not stand in a part of a URL as they are.

Each part of a URL has its own set of characters that must be coded, and every set holds the control
characters and everything beyond ASCII. The sets are nested (a path codes what a fragment codes and
more, user information what a path codes and more), and each is written as what it adds, so that the
nesting can be read off. A percent sign is in none of them: text that already holds a code keeps it,
and so a code and the character it stands for are told apart only by the reader at the other end.
-/
import Rendezvous.Text.Numeral
import Rendezvous.Text.Utf8

set_option autoImplicit false

namespace Rendezvous.Web

/-! ## What has to be coded -/

/-- Control characters and everything beyond ASCII. -/
def codedAnywhere (c : Char) : Bool :=
  c.toNat < 0x20 || 0x7E < c.toNat

/-- What is coded in a query. -/
def codedInQuery (c : Char) : Bool :=
  codedAnywhere c || [' ', '"', '#', '<', '>'].contains c

/-- What is coded in the query of a special scheme. -/
def codedInSpecialQuery (c : Char) : Bool :=
  codedInQuery c || c == '\x27'

/-- What is coded in a fragment. -/
def codedInFragment (c : Char) : Bool :=
  codedAnywhere c || [' ', '"', '<', '>', '\x60'].contains c

/-- What is coded in a path. -/
def codedInPath (c : Char) : Bool :=
  codedInFragment c || ['#', '?', '\x7B', '\x7D'].contains c

/-- What is coded in the name of a user and in a password. -/
def codedInUserInfo (c : Char) : Bool :=
  codedInPath c || ['/', ':', ';', '=', '@', '[', '\\', ']', '^', '|'].contains c

/-! ## Coding and decoding -/

/-- A hex digit in upper case. -/
def upperHexDigit (n : Nat) : Char :=
  if n < 10 then Char.ofNat (48 + n) else Char.ofNat (55 + n)

/-- A byte as a code. -/
def percentCode (b : UInt8) : List Char :=
  ['%', upperHexDigit (b.toNat / 16), upperHexDigit (b.toNat % 16)]

/-- A text in which the characters of a set are coded, byte by byte. -/
def percentEncode (coded : Char → Bool) (cs : List Char) : List Char :=
  cs.flatMap fun c =>
    if coded c then (String.utf8EncodeChar c).flatMap percentCode else [c]

/-- The byte that two hex digits stand for. -/
def hexByte? (high low : Char) : Option UInt8 :=
  match Text.hexValue? high, Text.hexValue? low with
  | some h, some l => some (UInt8.ofNat (h * 16 + l))
  | _, _ => none

/-- The bytes of a text, codes replaced by the bytes they stand for. A percent sign that is
not followed by two hex digits stands for itself. -/
def percentDecode : List Char → List UInt8
  | [] => []
  | '%' :: high :: low :: rest =>
    match hexByte? high low with
    | some b => b :: percentDecode rest
    | none => 0x25 :: percentDecode (high :: low :: rest)
  | c :: rest => String.utf8EncodeChar c ++ percentDecode rest

/-! ## Small facts -/

/-- Text without a character of the set is left alone. -/
theorem percentEncode_of_forall {coded : Char → Bool} {s : List Char}
    (h : ∀ c ∈ s, coded c = false) : percentEncode coded s = s := by
  induction s with
  | nil => rfl
  | cons c s ih =>
    have hc := h c (by simp)
    have hs := ih fun d hd => h d (by simp [hd])
    simp only [percentEncode, List.flatMap_cons, hc] at *
    simp [hs]

end Rendezvous.Web
